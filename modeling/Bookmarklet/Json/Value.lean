/-!
# JSON values

Numbers are kept as whole numbers or as decimal fractions, the members of an object as a list of pairs.
-/

namespace Bookmarklet

/-- A decimal fraction: `digits` times ten to the power of `exponent`, negated if `negative`. -/
structure Decimal where
  negative : Bool
  digits : Nat
  exponent : Int
  deriving DecidableEq

/-- A JSON value. -/
inductive Json where
  | null
  | bool (value : Bool)
  | integer (value : Int)
  | decimal (value : Decimal)
  | string (value : String)
  | array (items : List Json)
  | object (members : List (String × Json))

namespace Json

/-! ## Equality -/

-- values stand in lists and pairs inside of values, for which no comparison is derived
mutual
/-- Whether two values are the same. -/
def decEq : (v w : Json) → Decidable (v = w)
  | null, null => isTrue rfl
  | bool b, bool c => decidable_of_iff (b = c) (by simp)
  | integer m, integer n => decidable_of_iff (m = n) (by simp)
  | decimal d, decimal e => decidable_of_iff (d = e) (by simp)
  | string s, string t => decidable_of_iff (s = t) (by simp)
  | array vs, array ws =>
    haveI := decEqItems vs ws
    decidable_of_iff (vs = ws) (by simp)
  | object ms, object ns =>
    haveI := decEqMembers ms ns
    decidable_of_iff (ms = ns) (by simp)
  | null, bool _ | null, integer _ | null, decimal _ | null, string _ | null, array _ | null, object _
  | bool _, null | bool _, integer _ | bool _, decimal _ | bool _, string _ | bool _, array _ | bool _, object _
  | integer _, null | integer _, bool _ | integer _, decimal _ | integer _, string _ | integer _, array _
  | integer _, object _ | decimal _, null | decimal _, bool _ | decimal _, integer _ | decimal _, string _
  | decimal _, array _ | decimal _, object _ | string _, null | string _, bool _ | string _, integer _
  | string _, decimal _ | string _, array _ | string _, object _ | array _, null | array _, bool _
  | array _, integer _ | array _, decimal _ | array _, string _ | array _, object _ | object _, null
  | object _, bool _ | object _, integer _ | object _, decimal _ | object _, string _ | object _, array _ =>
    isFalse nofun

/-- Whether two arrays have the same items. -/
def decEqItems : (vs ws : List Json) → Decidable (vs = ws)
  | [], [] => isTrue rfl
  | v :: vs, w :: ws =>
    haveI := decEq v w
    haveI := decEqItems vs ws
    decidable_of_iff (v = w ∧ vs = ws) (by simp)
  | [], _ :: _ | _ :: _, [] => isFalse nofun

/-- Whether two objects have the same members. -/
def decEqMembers : (ms ns : List (String × Json)) → Decidable (ms = ns)
  | [], [] => isTrue rfl
  | (name, v) :: ms, (other, w) :: ns =>
    haveI := decEq v w
    haveI := decEqMembers ms ns
    decidable_of_iff ((name = other ∧ v = w) ∧ ms = ns) (by simp)
  | [], _ :: _ | _ :: _, [] => isFalse nofun
end

instance : DecidableEq Json := decEq

/-! ## Making values -/

/-- A value or `null`. -/
def ofOption (f : α → Json) : Option α → Json
  | none => null
  | some a => f a

/-- A list of texts. -/
def ofStrings (items : List String) : Json := array (items.map string)

/-- A member that is left out where there is no value. -/
def optionalMember (name : String) (f : α → Json) (value : Option α) : List (String × Json) :=
  (value.map fun a => (name, f a)).toList

end Json
end Bookmarklet
