/-!
The console's side of a cart: the functions that a cart can call and the entry points that the
console calls.
-/

namespace RCart

/-- The entry points that the console calls, by the console's names for them. -/
def entryPoints : List String :=
  ["TIC", "SCN", "BDR", "MENU", "BOOT"]

/-- The functions that the console offers to carts. -/
def apiFunctions : List String :=
  ["print", "cls", "pix", "line", "rect", "rectb", "spr", "btn", "btnp", "sfx",
   "map", "mget", "mset", "peek", "poke", "peek1", "poke1", "peek2", "poke2",
   "peek4", "poke4", "memcpy", "memset", "trace", "pmem", "time", "tstamp",
   "exit", "font", "mouse", "circ", "circb", "elli", "ellib", "tri", "trib",
   "ttri", "clip", "music", "sync", "reset", "key", "keyp", "fget", "fset",
   "vbank", "paint"]

/-- The words that the editor highlights as the console's: entry points, then functions. -/
def apiKeywords : List String :=
  entryPoints ++ apiFunctions

end RCart
