import RCart.Foreign.Host
import RCart.Proofs.Foreign.Cart

/-!
Calls of C programs.

A C program is given pointers: to the name of a function, to as many values as it is told that there
are, and with those that are texts to their bytes. What stands in memory behind a NUL is not part of
a C string.

* `CString.ofBytes_append`: a C string is read from memory up to its NUL;
* `CString.checked?_withoutNuls`: a text without its NULs is a C string, so nothing stands in for
  it;
* `Value.withoutNuls`, `CValue.readBack_ofValue`, `value_ofValue`: a value that goes out, is read
  from memory and comes in again has lost its NULs and nothing else;
* `CCall.args_ofCall`: every argument goes out with the C string of its own text;
* **`CHost.call_faithful`**: a C program sees each call as it was made, and is understood when it
  answers.
-/

namespace RCart

/-! ### Texts without NULs -/

namespace Text

lemma notMem_withoutNuls (text : String) : '\x00' ∉ (withoutNuls text).toList := by
  rw [withoutNuls, String.toList_ofList, List.mem_filter]
  simp

lemma withoutNuls_of_notMem {text : String} (h : '\x00' ∉ text.toList) :
    withoutNuls text = text := by
  have hkept : text.toList.filter (· ≠ '\x00') = text.toList :=
    List.filter_eq_self.mpr fun c hc => decide_eq_true fun heq => h (heq ▸ hc)
  rw [withoutNuls, hkept, String.ofList_toList]

/-- Without NULs in a text there are none among its bytes. -/
lemma zero_notMem_toBytes {text : String} (h : '\x00' ∉ text.toList) : 0 ∉ toBytes text := by
  rw [toBytes_eq]
  exact (toUInt8_mem_bytesOf_iff (a := '\x00') (by decide)).not.mpr h

end Text

/-! ### C strings -/

namespace CString

/-- A C string is read from memory up to its NUL, whatever stands behind it. -/
lemma ofBytes_append {s : CString} (h : 0 ∉ s) (behind : List UInt8) :
    ofBytes (s ++ 0 :: behind) = s := by
  have hbefore : ∀ b ∈ s, decide (b ≠ 0) = true :=
    fun b hb => decide_eq_true fun heq => h (heq ▸ hb)
  have hstop : ∀ b ∈ (0 :: behind).head?, decide (b ≠ 0) = false := by simp
  exact (Text.takeWhile_append_of_head? hbefore hstop).1

lemma zero_notMem_withoutNuls (text : String) : 0 ∉ Text.toBytes (Text.withoutNuls text) :=
  Text.zero_notMem_toBytes (Text.notMem_withoutNuls text)

/-- A text without its NULs is a C string. -/
lemma checked?_withoutNuls (text : String) :
    checked? (Text.toBytes (Text.withoutNuls text))
      = some (Text.toBytes (Text.withoutNuls text)) :=
  if_neg (zero_notMem_withoutNuls text)

/-- So nothing ever stands in for it. -/
lemma ofText_eq (text : String) : ofText text = Text.toBytes (Text.withoutNuls text) := by
  rw [ofText, checked?_withoutNuls, Option.getD_some]

/-- The C string of a text is read back from memory. -/
lemma ofBytes_ofText (text : String) (behind : List UInt8) :
    ofBytes (ofText text ++ 0 :: behind) = ofText text := by
  refine ofBytes_append ?_ behind
  rw [ofText_eq]
  exact zero_notMem_withoutNuls text

lemma text?_ofText (text : String) : text? (some (ofText text)) = some (Text.withoutNuls text) :=
  text?_eq_some_iff.mpr (ofText_eq text).symm

end CString

/-! ### Values -/

/-- A value without the NULs of its text. -/
def Value.withoutNuls : Value → Value
  | .text s => .text (Text.withoutNuls s)
  | v => v

lemma Value.withoutNuls_of_notMem {v : Value} (h : ∀ s, v.text? = some s → '\x00' ∉ s.toList) :
    v.withoutNuls = v := by
  cases v with
  | text s => exact congrArg Value.text (Text.withoutNuls_of_notMem (h s rfl))
  | _ => rfl

namespace CValue

/-- A value whose text is read from memory, where other bytes stand behind its NUL. -/
def readBack (behind : List UInt8) (v : CValue) : CValue :=
  { v with text := v.text.map fun s => CString.ofBytes (s ++ 0 :: behind) }

lemma readBack_ofValue (v : Value) (behind : List UInt8) :
    (ofValue v).readBack behind = ofValue v := by
  cases v with
  | text s =>
      have hread := CString.ofBytes_ofText s behind
      exact congrArg (fun s => CValue.mk textKind Binary64.zero (some s)) hread
  | _ => rfl

lemma value_of_text {s : CString} {text : String} (h : CString.text? (some s) = some text) :
    (CValue.mk textKind Binary64.zero (some s)).value = .text text := by
  have hbool : textKind ≠ boolKind := by decide
  have hnumber : textKind ≠ numberKind := by decide
  rw [value, if_neg hbool, if_neg hnumber, if_pos rfl, h]

/-- What goes out comes in again, without NULs. -/
lemma value_ofValue (v : Value) : (ofValue v).value = v.withoutNuls := by
  cases v with
  | null => rfl
  | bool b => cases b <;> rfl
  | number x => rfl
  | text s => exact value_of_text (CString.text?_ofText s)

end CValue

/-! ### Calls -/

namespace CCall

/-- Every argument goes out with the C string of its own text. -/
lemma args_ofCall (request : ApiCall) :
    (ofCall request).args = request.args.map CValue.ofValue := by
  have hargs : (ofCall request).args = List.zipWith CValue.withText request.args
      (request.args.map fun v => v.text?.map CString.ofText) := rfl
  rw [hargs, List.zipWith_map_right, List.zipWith_self]
  rfl

lemma count_ofCall {request : ApiCall} (h : request.args.length < Nat.pow 2 31) :
    (ofCall request).count.toInt = request.args.length := by
  have hcount : (ofCall request).count = Int32.ofNat (ofCall request).args.length := rfl
  rw [hcount, args_ofCall, List.length_map, Int32.toInt_ofNat_of_lt h]

end CCall

namespace CHost

variable {h : CHost} {api : List Exchange → CCall → Option CValue}

/-- A call that is taken is answered by what is written, and passes. -/
lemma answer_of_apiCall (hcalls : h.apiCall = some api) (request : ApiCall) (t : Transcript) :
    h.console.answer request t
      = (let value := ((api t.exchanges (CCall.ofCall request)).getD CValue.null).value
        (value, t.pass (.call request value))) := by
  have hreply : h.console.reply t.exchanges request
      = some ((api t.exchanges (CCall.ofCall request)).getD CValue.null).value := by
    rw [console, hcalls]
    rfl
  rw [Console.answer, hreply]

/-- **A C program is called faithfully**, whatever has passed before.

It takes calls, and the arguments are fewer than `2 ^ 31`. The call reaches it. Whatever stands in
memory behind the NULs, it reads the name without its NULs, and as many values as there are
arguments, each of them the argument in its place but for the NULs of a text. A value without NULs
that it writes in the same form is what the cart gets, and if it writes nothing the cart gets no
value. Without its NULs every text is a C string, so no text is ever replaced by an empty one. -/
theorem call_faithful (hcalls : h.apiCall = some api) {request : ApiCall}
    (hcount : request.args.length < Nat.pow 2 31) (t : Transcript) :
    let call := CCall.ofCall request
    let answered := h.console.answer request t
    (answered.2 = t.pass (.call request answered.1)
        ∧ h.receives (.call request answered.1) = some (.call call))
      ∧ (∀ behind, CString.text? (some (CString.ofBytes (call.name ++ 0 :: behind)))
        = some (Text.withoutNuls request.name))
      ∧ (call.count.toInt = request.args.length
        ∧ List.Forall₂ (fun arg v => ∀ behind, (arg.readBack behind).value = Value.withoutNuls v)
          call.args request.args)
      ∧ (∀ v : Value, (∀ s, v.text? = some s → '\x00' ∉ s.toList) →
        ∀ behind, api t.exchanges call = some ((CValue.ofValue v).readBack behind) →
          answered.1 = v)
      ∧ (api t.exchanges call = none → answered.1 = .null)
      ∧ ∀ text, CString.checked? (Text.toBytes (Text.withoutNuls text))
        = some (CString.ofText text) := by
  intro call answered
  have hanswered := answer_of_apiCall hcalls request t
  refine ⟨⟨?_, ?_⟩, fun behind => ?_, ⟨CCall.count_ofCall hcount, ?_⟩, fun v hv behind hapi => ?_,
    fun hapi => ?_, fun text => ?_⟩
  · simp only [answered, hanswered]
  · rw [receives, hcalls]
    rfl
  · have hname : call.name = CString.ofText request.name := rfl
    rw [hname, CString.ofBytes_ofText, CString.text?_ofText]
  · have hargs : call.args = request.args.map CValue.ofValue := CCall.args_ofCall request
    rw [hargs, List.forall₂_map_left_iff, List.forall₂_same]
    intro v _ behind
    rw [CValue.readBack_ofValue, CValue.value_ofValue]
  · have hvalue : answered.1 = ((api t.exchanges call).getD CValue.null).value :=
      congrArg Prod.fst hanswered
    rw [hvalue, hapi, Option.getD_some, CValue.readBack_ofValue, CValue.value_ofValue]
    exact Value.withoutNuls_of_notMem hv
  · have hvalue : answered.1 = ((api t.exchanges call).getD CValue.null).value :=
      congrArg Prod.fst hanswered
    rw [hvalue, hapi]
    rfl
  · rw [CString.checked?_withoutNuls, CString.ofText_eq]

/-- A name and a text with NULs, a number that is none, and an empty text, for a C program that
answers with a text. -/
theorem call_faithful_mixed :
    let h : CHost := { apiCall := some fun _ _ => some (CValue.ofValue (.text "où")) }
    let request : ApiCall :=
      { name := "p\x00ix"
        args := [.text "\x00é\x00", .number ⟨0xfff0000000000001⟩, .bool false, .null, .text ""] }
    let call := CCall.ofCall request
    request.args.length < Nat.pow 2 31
      ∧ call.count.toInt = 5
      ∧ CString.text? (some (CString.ofBytes (call.name ++ [0, 0xff]))) = some "pix"
      ∧ (call.args.map fun arg => (arg.readBack [0xff]).value)
        = [.text "é", .number ⟨0xfff0000000000001⟩, .bool false, .null, .text ""]
      ∧ (h.console.answer request {}).1 = .text "où" := by
  intro h request call
  have hcount : request.args.length < Nat.pow 2 31 := by decide
  obtain ⟨-, hname, ⟨htold, hargs⟩, hanswered, -, -⟩ :=
    call_faithful (h := h) rfl hcount {}
  have hread : (call.args.map fun arg => (arg.readBack [0xff]).value)
      = request.args.map Value.withoutNuls := by
    rw [← List.forall₂_eq_eq_eq, List.forall₂_map_left_iff, List.forall₂_map_right_iff]
    exact hargs.imp fun _ _ hread => hread [0xff]
  have hkept : request.args.map Value.withoutNuls
      = [.text "é", .number ⟨0xfff0000000000001⟩, .bool false, .null, .text ""] := by
    decide +kernel
  have hpix : Text.withoutNuls request.name = "pix" := by decide +kernel
  have hclean : ∀ s, (Value.text "où").text? = some s → '\x00' ∉ s.toList := by
    rintro _ ⟨⟩
    decide +kernel
  exact ⟨hcount, htold, hpix ▸ hname [0xff], hread.trans hkept,
    hanswered (.text "où") hclean [] (congrArg some (CValue.readBack_ofValue _ []).symm)⟩

end CHost

end RCart
