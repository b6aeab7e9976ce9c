import Bookmarklet.Json.Decode
import Bookmarklet.Proofs.Lookup

/-!
# Records, field by field

A record is read from an object by taking its members one after the other (`fill`). A field is told by the decoder of the
member with its name, and no other member changes it (`IsField`). So if no name occurs twice, the order of the members
makes no difference: each field is what its member is decoded to (`IsField.decode_of_mem`), or what it was before where
there is no such member (`IsField.get_of_not_mem`); and if each member can be taken, all can (`exists_fill`).
-/

namespace Bookmarklet.Json

theorem bind_eq_ok_iff {ε α β : Type} {x : Except ε α} {f : α → Except ε β} {b : β} :
    x >>= f = .ok b ↔ ∃ a, x = .ok a ∧ f a = .ok b := by
  cases x with
  | error e => simp [bind, Except.bind]
  | ok a => simp [bind, Except.bind]

theorem map_eq_ok_iff {ε α β : Type} {x : Except ε α} {f : α → β} {b : β} :
    x.map f = .ok b ↔ ∃ a, x = .ok a ∧ f a = b := by
  cases x with
  | error e => simp [Except.map]
  | ok a => simp [Except.map]

/-! ## Members -/

section Members

variable {α : Type} {name : String} {f : α → Json} {value : Option α}

theorem mem_optionalMember {m : String × Json} :
    m ∈ optionalMember name f value ↔ m.1 = name ∧ ∃ a, value = some a ∧ m.2 = f a := by
  obtain ⟨other, v⟩ := m
  cases value with
  | none => simp [optionalMember]
  | some a => simp [optionalMember]

theorem names_optionalMember : ((optionalMember name f value).map (·.1)).Sublist [name] := by
  cases value with
  | none => exact List.nil_sublist _
  | some a => exact List.Sublist.refl _

end Members

/-- No two members of a value have the same name. -/
def HasDistinctNames : Json → Prop
  | object members => (members.map (·.1)).Nodup
  | _ => True

/-! ## Decoders -/

theorem variant_eq_ok_iff {α : Type} {variants : List (String × α)} {name : String} {a : α} :
    variant variants name = .ok a ↔ variants.lookup name = some a := by
  unfold variant
  cases variants.lookup name with
  | none => exact iff_of_false nofun nofun
  | some b => rw [Except.ok.injEq, Option.some.injEq]

/-- A variant is written as its name, or as an object with that name as the only one and nothing behind it. -/
theorem asVariant_eq_ok_iff {α : Type} {isNothing : Json → Bool} {variants : List (String × α)} {v : Json} {a : α} :
    v.asVariant isNothing variants = .ok a
      ↔ ∃ name, variants.lookup name = some a ∧ (v = .string name ∨ ∃ w, isNothing w ∧ v = .object [(name, w)]) := by
  cases v with
  | string name => simp [asVariant, variant_eq_ok_iff]
  | object members =>
    rcases members with _ | ⟨⟨name, w⟩, _ | ⟨second, rest⟩⟩
    · simp [asVariant]
    · simp only [asVariant, bind_eq_ok_iff, variant_eq_ok_iff]
      cases hw : isNothing w with
      | true => simp [hw]
      | false => simp [hw, refuse]
    · simp [asVariant]
  | _ => simp [asVariant, refuse]

theorem asStrings_ofStrings (items : List String) : (ofStrings items).asStrings = .ok items := by
  induction items with
  | nil => rfl
  | cons item items ih =>
    rw [ofStrings, asStrings] at ih ⊢
    rw [List.map_cons, List.mapM_cons, ih]
    rfl

/-! ## Fields -/

section Fields

variable {ρ β : Type} {set : String → Json → ρ → Decoded ρ} {members : List (String × Json)} {r r' : ρ}

/-- Takes members one after the other. -/
def fill (set : String → Json → ρ → Decoded ρ) (r : ρ) (members : List (String × Json)) : Decoded ρ :=
  members.foldlM (fun r (name, v) => set name v r) r

theorem fill_cons_eq_ok_iff {name : String} {v : Json} :
    fill set r ((name, v) :: members) = .ok r' ↔ ∃ s, set name v r = .ok s ∧ fill set s members = .ok r' := by
  rw [fill, List.foldlM_cons, bind_eq_ok_iff]
  rfl

/-- If each member can be taken, whatever was taken before, all can. -/
theorem exists_fill (h : ∀ m ∈ members, ∀ r, ∃ r', set m.1 m.2 r = .ok r') (r : ρ) :
    ∃ r', fill set r members = .ok r' := by
  induction members generalizing r with
  | nil => exact ⟨r, rfl⟩
  | cons m members ih =>
    obtain ⟨s, hs⟩ := h m List.mem_cons_self r
    obtain ⟨r', hr'⟩ := ih (fun m hm => h m (List.mem_cons_of_mem _ hm)) s
    exact ⟨r', fill_cons_eq_ok_iff.2 ⟨s, hs, hr'⟩⟩

/-- The member with a name is decoded to what `get` shows of the record from then on, and no other member changes
that. -/
structure IsField (set : String → Json → ρ → Decoded ρ) (name : String) (decode : Json → Decoded β) (get : ρ → β) :
    Prop where
  own {v : Json} {r r' : ρ} : set name v r = .ok r' → decode v = .ok (get r')
  other {other : String} {v : Json} {r r' : ρ} : other ≠ name → set other v r = .ok r' → get r' = get r

namespace IsField

variable {name : String} {v : Json} {decode : Json → Decoded β} {get : ρ → β}

/-- A field whose name is not there stays as it was. -/
theorem get_of_not_mem (h : IsField set name decode get) (hn : name ∉ members.map (·.1))
    (hfill : fill set r members = .ok r') : get r' = get r := by
  induction members generalizing r with
  | nil =>
    cases hfill
    rfl
  | cons m members ih =>
    obtain ⟨other, w⟩ := m
    obtain ⟨s, hs, hrest⟩ := fill_cons_eq_ok_iff.1 hfill
    rw [List.map_cons, List.mem_cons, not_or] at hn
    rw [ih hn.2 hrest, h.other (Ne.symm hn.1) hs]

/-- A field is what its member is decoded to, wherever it stands. -/
theorem decode_of_mem (h : IsField set name decode get) (hd : (members.map (·.1)).Nodup) (hm : (name, v) ∈ members)
    (hfill : fill set r members = .ok r') : decode v = .ok (get r') := by
  induction members generalizing r with
  | nil => cases hm
  | cons m members ih =>
    obtain ⟨other, w⟩ := m
    obtain ⟨s, hs, hrest⟩ := fill_cons_eq_ok_iff.1 hfill
    rw [List.map_cons, List.nodup_cons] at hd
    rcases List.mem_cons.1 hm with heq | hm
    · cases heq
      rw [h.get_of_not_mem hd.1 hrest]
      exact h.own hs
    · exact ih hd.2 hm hrest

/-- A field that may be left out is what its member was made of. -/
theorem get_of_optional {α : Type} {decode : Json → Decoded (Option α)} {get : ρ → Option α} {f : α → Json}
    {value : Option α} (h : IsField set name decode get) (hd : (members.map (·.1)).Nodup)
    (hm : ∀ v, (name, v) ∈ members ↔ ∃ a, value = some a ∧ v = f a) (hblank : get r = none)
    (hf : ∀ a, decode (f a) = .ok (some a)) (hfill : fill set r members = .ok r') : get r' = value := by
  cases value with
  | none =>
    rw [h.get_of_not_mem (fun hn => ?_) hfill, hblank]
    obtain ⟨⟨other, v⟩, hmem, rfl⟩ := List.mem_map.1 hn
    simpa using (hm v).1 hmem
  | some a =>
    have hget := h.decode_of_mem hd ((hm (f a)).2 ⟨a, rfl, rfl⟩) hfill
    rw [hf a] at hget
    exact (Except.ok.inj hget).symm

end IsField
end Fields

end Bookmarklet.Json
