import FrameMachine.Json.Basic

/-! Values that are told apart by a tag. The tag is the member `t`, the content the member `v`, in
any order and among any other members; a pair of tag and content means the same.

A value may have been set aside until a tag around it was known. Then it has been read without
knowing what it is, and a few more forms of its own tag are understood. -/

namespace FrameMachine.Json

/-- How tag and content are written down. -/
inductive Tagged.Layout where
  | pair
  | tagFirst
  | contentFirst
deriving DecidableEq, Inhabited

structure Tagged where
  tag : Json
  content : Option Json
  layout : Tagged.Layout

/-- The name that a tag gives: a string, or an object whose only member has the name as its key and
holds null. In a value that was set aside an empty object does in place of null. -/
def tagName? (setAside : Bool) : Json → Option String
  | .string name => some name
  | .object [(name, .null)] => some name
  | .object [(name, .object [])] => if setAside then some name else none
  | _ => none

/-- The name that the tag of a pair gives, which is a string. In a value that was set aside the
position among all names does as well. -/
def pairName? (setAside : Bool) (names : List String) : Json → Option String
  | .string name => some name
  | .number (.integer n) => if setAside ∧ 0 ≤ n then names[n.toNat]? else none
  | _ => none

namespace Tagged

def ofJson? : Json → Option Tagged
  | .array [tag, content] => some ⟨tag, some content, .pair⟩
  | .object members =>
    match members.filter fun member => member.1 = "t" ∨ member.1 = "v" with
    | [("t", tag)] => some ⟨tag, none, .tagFirst⟩
    | [("t", tag), ("v", content)] => some ⟨tag, some content, .tagFirst⟩
    | [("v", content), ("t", tag)] => some ⟨tag, some content, .contentFirst⟩
    | _ => none
  | _ => none

/-- The name of the tag, which is one of `names` if the value is well formed. -/
def name? (setAside : Bool) (names : List String) (tagged : Tagged) : Option String :=
  match tagged.layout with
  | .pair => pairName? setAside names tagged.tag
  | _ => tagName? setAside tagged.tag

def toJson (tag : String) (content : Option Json) : Json :=
  match content with
  | none => .object [("t", .string tag)]
  | some content => .object [("t", .string tag), ("v", content)]

end Tagged

end FrameMachine.Json
