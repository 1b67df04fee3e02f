import BytecodeViewer.Pattern.Tree

/-!
# Building patterns

Short names for the nodes of patterns that are built in place of being read.
-/

namespace BytecodeViewer

namespace Pattern

namespace Node

def just (c : Char) : Node :=
  .char (.literal c.toNat .exact false)

def word (s : String) : Node :=
  .sequence (s.toList.map just)

def oneOf (items : List SetItem) : Node :=
  .char (.set items .exact false)

def noneOf (items : List SetItem) : Node :=
  .char (.set items .exact true)

def other (c : Char) : Node :=
  .char (.literal c.toNat .exact true)

def several (body : Node) : Node :=
  .repetition body 1 none .greedy

def many (body : Node) : Node :=
  .repetition body 0 none .greedy

def optional (body : Node) : Node :=
  .repetition body 0 (some 1) .greedy

end Node

namespace SetItem

def char (c : Char) : SetItem := .one c.toNat

def chars (first last : Char) : SetItem := .range first.toNat last.toNat

def word : SetItem := .kind .word false false

def digit : SetItem := .kind .digit false false

end SetItem

end Pattern

end BytecodeViewer
