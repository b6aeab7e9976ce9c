import Bookmarklet.Json.Reader
import Bookmarklet.Proofs.Json.Record

/-!
# Names are read once

The members of an object are read in any order and kept in that of their names, where a later member takes the place of
an earlier one with its name (`InOrder.insertMember`). So no name occurs twice in a value that is read from a text
(`hasDistinctNames_of_parse?`).
-/

namespace Bookmarklet.Json

/-- The names of members go up. -/
def InOrder (members : List (String × Json)) : Prop := members.Pairwise fun m m' => m.1 < m'.1

section InOrder

variable {members : List (String × Json)} {name : String} {v : Json}

theorem InOrder.hasDistinctNames (h : InOrder members) : (object members).HasDistinctNames :=
  List.pairwise_map.2 (h.imp fun {m m'} hlt (heq : m.1 = m'.1) => String.lt_irrefl m'.1 (heq ▸ hlt))

theorem mem_insertMember {m : String × Json} (h : m ∈ insertMember name v members) : m = (name, v) ∨ m ∈ members := by
  induction members with
  | nil => exact .inl (List.mem_singleton.1 h)
  | cons other rest ih =>
    obtain ⟨other, w⟩ := other
    rw [insertMember] at h
    split at h
    · exact List.mem_cons.1 h
    split at h
    · exact (List.mem_cons.1 h).imp_right (List.mem_cons_of_mem _)
    · rcases List.mem_cons.1 h with rfl | h
      · exact .inr List.mem_cons_self
      · exact (ih h).imp_right (List.mem_cons_of_mem _)

theorem InOrder.insertMember (h : InOrder members) : InOrder (insertMember name v members) := by
  induction members with
  | nil => exact List.pairwise_singleton _ _
  | cons other rest ih =>
    obtain ⟨other, w⟩ := other
    obtain ⟨hother, hrest⟩ := List.pairwise_cons.1 h
    rw [Json.insertMember]
    split
    next hlt =>
      refine List.pairwise_cons.2 ⟨fun m hm => ?_, h⟩
      rcases List.mem_cons.1 hm with rfl | hm
      · exact hlt
      · exact String.lt_trans hlt (hother m hm)
    next hlt =>
      split
      next heq => exact List.pairwise_cons.2 ⟨heq ▸ hother, hrest⟩
      next hne =>
        have hgt : other < name := String.not_le.1 fun hle => hne (String.le_antisymm hle (String.not_lt.1 hlt))
        refine List.pairwise_cons.2 ⟨fun m hm => ?_, ih hrest⟩
        rcases mem_insertMember hm with rfl | hm
        · exact hgt
        · exact hother m hm

end InOrder

section Reading

variable {fuel : Nat} {text rest : List Char} {v : Json}

/-- Members that are read beside others in order make an object with its members in order. -/
theorem hasDistinctNames_of_readMembers {members : List (String × Json)} (h : InOrder members)
    (hread : readMembers fuel members text = some (v, rest)) : v.HasDistinctNames := by
  induction fuel generalizing members text with
  | zero => exact nomatch hread
  | succ fuel ih =>
    rw [readMembers] at hread
    split at hread
    next =>
      obtain ⟨⟨name, afterName⟩, -, hread⟩ := Option.bind_eq_some_iff.1 hread
      dsimp only at hread
      split at hread
      next =>
        obtain ⟨⟨value, afterValue⟩, -, hread⟩ := Option.bind_eq_some_iff.1 hread
        dsimp only at hread
        split at hread
        next => exact ih h.insertMember hread
        next =>
          cases hread
          exact h.insertMember.hasDistinctNames
        next => cases hread
      next => cases hread
    next => cases hread

theorem hasDistinctNames_of_readItems {items : List Json} (hread : readItems fuel items text = some (v, rest)) :
    v.HasDistinctNames := by
  induction fuel generalizing items text with
  | zero => exact nomatch hread
  | succ fuel ih =>
    rw [readItems] at hread
    obtain ⟨⟨item, afterItem⟩, -, hread⟩ := Option.bind_eq_some_iff.1 hread
    dsimp only at hread
    split at hread
    next => exact ih hread
    next =>
      cases hread
      trivial
    next => cases hread

theorem hasDistinctNames_of_readNumber {negative : Bool} (hread : readNumber negative text = some (v, rest)) :
    v.HasDistinctNames := by
  simp only [readNumber, Option.ite_none_left_eq_some, Option.map_eq_some_iff] at hread
  obtain ⟨-, n, hn, heq⟩ := hread
  cases heq
  rw [number?] at hn
  obtain ⟨-, hn⟩ | ⟨-, hn⟩ := ite_eq_iff.1 hn
  · cases hn
    trivial
  · obtain ⟨d, -, rfl⟩ := Option.map_eq_some_iff.1 hn
    trivial

theorem eq_of_readWord {word : String} {value : Json} (hread : readWord word value text = some (v, rest)) :
    v = value := by
  unfold readWord at hread
  split at hread
  · cases hread
    rfl
  · cases hread

theorem hasDistinctNames_of_readValue (hread : readValue fuel text = some (v, rest)) : v.HasDistinctNames := by
  cases fuel with
  | zero => exact nomatch hread
  | succ fuel =>
    rw [readValue] at hread
    split at hread
    next =>
      obtain ⟨s, -, heq⟩ := Option.map_eq_some_iff.1 hread
      cases heq
      trivial
    next =>
      split at hread
      next =>
        cases hread
        trivial
      next => exact hasDistinctNames_of_readItems hread
    next =>
      split at hread
      next =>
        cases hread
        exact List.nodup_nil
      next => exact hasDistinctNames_of_readMembers List.Pairwise.nil hread
    next => exact hasDistinctNames_of_readNumber hread
    next => exact eq_of_readWord hread ▸ trivial
    next => exact eq_of_readWord hread ▸ trivial
    next => exact eq_of_readWord hread ▸ trivial
    next => exact hasDistinctNames_of_readNumber hread

end Reading

/-- In a value that a text spells, no name occurs twice. -/
theorem hasDistinctNames_of_parse? {text : String} {v : Json} (h : parse? text = some v) : v.HasDistinctNames := by
  unfold parse? at h
  split at h
  next hread =>
    split at h
    · cases h
      exact hasDistinctNames_of_readValue hread
    · cases h
  next => cases h

end Bookmarklet.Json
