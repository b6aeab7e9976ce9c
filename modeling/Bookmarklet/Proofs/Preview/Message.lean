import Bookmarklet.Preview.Message
import Bookmarklet.Proofs.Json.Members

/-!
# The messages that are taken

A page posts an object with a tag, a level and a text, each of them as a text (`Event.Posted`). More than these are
taken: the level may be written as an object with its name and nothing behind it, and the whole message as an array with
the tag at its head (`Event.Written`). Nothing else is: the level is decoded just if it is so written
(`levelOfJson_eq_ok_iff`), members and items are read just if they hold what they should (`ofMembers_eq_ok_iff`,
`ofItems_eq_ok_iff`), and so a message is taken just if it is written in one of these ways (`ofJson_eq_ok_iff_written`).
No name must occur twice in it, as is the case for all that is read from a text (`Json.hasDistinctNames_of_parse?`).
-/

namespace Bookmarklet.Preview

/-! ## What is written -/

/-- A level is written as its name, or as an object with the name as the only one and nothing behind it. -/
inductive Level.Written (l : Level) : Json → Prop
  | name : Written l (.string l.name)
  | member {v : Json} : Event.isNothing v → Written l (.object [(l.name, v)])

namespace Event

/-- What a page posts: an object with the tag, the name of the level and the text, and whatever else. -/
def Posted (e : Event) (v : Json) : Prop :=
  ∃ members, v = .object members ∧ members.lookup "type" = some (.string channel)
    ∧ members.lookup "level" = some (.string e.level.name) ∧ members.lookup "payload" = some (.string e.payload)

/-- An event is written as an object with the tag, the level, the text and whatever else, or as an array of just these
three. -/
inductive Written (e : Event) : Json → Prop
  | members {members : List (String × Json)} {level : Json} : members.lookup "type" = some (.string channel) →
      members.lookup "level" = some level → e.level.Written level →
      members.lookup "payload" = some (.string e.payload) → Written e (.object members)
  | items {level : Json} : e.level.Written level → Written e (.array [.string channel, level, .string e.payload])

/-! ## Levels and tags -/

theorem levelOfJson_eq_ok_iff {v : Json} {l : Level} : levelOfJson v = .ok l ↔ l.Written v := by
  have hlookup (name : String) : (Level.all.map fun l => (l.name, l)).lookup name = some l ↔ name = l.name := by
    rw [lookup_eq_some_iff_mem (by decide), List.mem_map]
    constructor
    · rintro ⟨l', -, heq⟩
      cases heq
      rfl
    · rintro rfl
      exact ⟨l, by cases l <;> decide, rfl⟩
  rw [levelOfJson, Json.asVariant_eq_ok_iff]
  constructor
  · rintro ⟨name, hname, rfl | ⟨w, hw, rfl⟩⟩
    · rw [(hlookup name).1 hname]
      exact .name
    · rw [(hlookup name).1 hname]
      exact .member hw
  · intro h
    refine ⟨l.name, (hlookup _).2 rfl, ?_⟩
    cases h with
    | name => exact .inl rfl
    | member hw => exact .inr ⟨_, hw, rfl⟩

theorem asString_eq_ok_iff {v : Json} {s : String} : v.asString = .ok s ↔ v = .string s := by
  cases v <;> simp [Json.asString, Json.refuse]

theorem checkTag_eq_ok_iff {v : Json} {u : Unit} : checkTag v = .ok u ↔ v = .string channel := by
  cases v with
  | string name =>
    rw [checkTag, Json.variant_eq_ok_iff, lookup_eq_some_iff_mem (by simp)]
    simp
  | _ => simp [checkTag, Json.refuse]

/-! ## Members -/

/-- What the members of a message do to the fields. -/
theorem Fields.set_cases {name : String} {v : Json} {f f' : Fields} (h : Fields.set name v f = .ok f') :
    (name = "level" ∧ ∃ l, levelOfJson v = .ok l ∧ f' = { f with level := some l })
      ∨ (name = "payload" ∧ ∃ s, v.asString = .ok s ∧ f' = { f with payload := some s })
      ∨ (name ≠ "level" ∧ name ≠ "payload" ∧ f' = f) := by
  unfold Fields.set at h
  split at h
  · obtain ⟨l, hl, heq⟩ := Json.bind_eq_ok_iff.1 h
    cases heq
    exact .inl ⟨rfl, l, hl, rfl⟩
  · obtain ⟨s, hs, heq⟩ := Json.bind_eq_ok_iff.1 h
    cases heq
    exact .inr (.inl ⟨rfl, s, hs, rfl⟩)
  next hlevel hpayload =>
    cases h
    exact .inr (.inr ⟨hlevel, hpayload, rfl⟩)

theorem isField_level : Json.IsField Fields.set "level" (fun v => (levelOfJson v).map some) (·.level) where
  own h := by
    obtain ⟨-, l, hl, rfl⟩ | ⟨hname, -⟩ | ⟨hname, -⟩ := Fields.set_cases h
    · rw [hl]
      rfl
    · exact absurd hname (by decide)
    · exact absurd rfl hname
  other hne h := by
    obtain ⟨hname, -⟩ | ⟨-, s, -, rfl⟩ | ⟨-, -, rfl⟩ := Fields.set_cases h
    · exact absurd hname hne
    · rfl
    · rfl

theorem isField_payload : Json.IsField Fields.set "payload" (fun v => v.asString.map some) (·.payload) where
  own h := by
    obtain ⟨hname, -⟩ | ⟨-, s, hs, rfl⟩ | ⟨-, hname, -⟩ := Fields.set_cases h
    · exact absurd hname (by decide)
    · rw [hs]
      rfl
    · exact absurd rfl hname
  other hne h := by
    obtain ⟨-, l, -, rfl⟩ | ⟨hname, -⟩ | ⟨-, -, rfl⟩ := Fields.set_cases h
    · rfl
    · exact absurd hname hne
    · rfl

/-- The members behind the tag are read just if there are a level and a text among them. -/
theorem ofMembers_eq_ok_iff {members : List (String × Json)} (hd : (members.map (·.1)).Nodup) {e : Event} :
    ofMembers members = .ok e
      ↔ (∃ level, members.lookup "level" = some level ∧ e.level.Written level)
        ∧ members.lookup "payload" = some (.string e.payload) := by
  obtain ⟨l, s⟩ := e
  have hread : ofMembers members = .ok ⟨l, s⟩ ↔ Json.fill Fields.set ⟨none, none⟩ members = .ok ⟨some l, some s⟩ := by
    rw [ofMembers, Json.bind_eq_ok_iff, ← Json.fill]
    constructor
    · rintro ⟨⟨level, payload⟩, hf, h⟩
      cases level <;> cases payload <;> cases h
      exact hf
    · exact fun hf => ⟨_, hf, rfl⟩
  rw [hread]
  constructor
  · intro hf
    constructor
    · cases hl : members.lookup "level" with
      | none => cases isField_level.get_of_not_mem (not_mem_of_lookup_eq_none hl) hf
      | some level =>
        obtain ⟨l', hl', heq⟩ :=
          Json.map_eq_ok_iff.1 (isField_level.decode_of_mem hd (mem_of_lookup_eq_some hl) hf)
        cases heq
        exact ⟨level, rfl, levelOfJson_eq_ok_iff.1 hl'⟩
    · cases hp : members.lookup "payload" with
      | none => cases isField_payload.get_of_not_mem (not_mem_of_lookup_eq_none hp) hf
      | some payload =>
        obtain ⟨s', hs', heq⟩ :=
          Json.map_eq_ok_iff.1 (isField_payload.decode_of_mem hd (mem_of_lookup_eq_some hp) hf)
        cases heq
        rw [asString_eq_ok_iff.1 hs']
  · rintro ⟨⟨level, hl, hwritten⟩, hp⟩
    have hlevel : levelOfJson level = .ok l := levelOfJson_eq_ok_iff.2 hwritten
    obtain ⟨⟨level', payload'⟩, hf⟩ : ∃ f, Json.fill Fields.set ⟨none, none⟩ members = .ok f := by
      refine Json.exists_fill (fun m hm f => ?_) _
      obtain ⟨name, v⟩ := m
      by_cases hname : name = "level"
      · subst hname
        obtain rfl := Option.some.inj (hl.symm.trans (lookup_eq_some_of_mem hd hm))
        exact ⟨{ f with level := some l }, by simp only [Fields.set, hlevel]; rfl⟩
      by_cases hname : name = "payload"
      · subst hname
        obtain rfl := Option.some.inj (hp.symm.trans (lookup_eq_some_of_mem hd hm))
        exact ⟨{ f with payload := some s }, rfl⟩
      · exact ⟨f, by simp [Fields.set, *]; rfl⟩
    have hl' := isField_level.decode_of_mem hd (mem_of_lookup_eq_some hl) hf
    have hp' := isField_payload.decode_of_mem hd (mem_of_lookup_eq_some hp) hf
    rw [hlevel] at hl'
    cases hl'
    cases hp'
    exact hf

/-! ## Items -/

/-- The items behind the tag are read just if they are a level and a text. -/
theorem ofItems_eq_ok_iff {items : List Json} {e : Event} :
    ofItems items = .ok e ↔ ∃ level, items = [level, .string e.payload] ∧ e.level.Written level := by
  obtain ⟨l, s⟩ := e
  rcases items with _ | ⟨level, _ | ⟨payload, more⟩⟩
  · simp [ofItems]
  · simp [ofItems, Json.bind_eq_ok_iff]
  · simp only [ofItems, Json.bind_eq_ok_iff, levelOfJson_eq_ok_iff, asString_eq_ok_iff]
    constructor
    · rintro ⟨l', hl', s', rfl, h⟩
      split at h
      next hmore =>
        cases h
        rw [List.isEmpty_iff.1 hmore]
        exact ⟨level, rfl, hl'⟩
      next => cases h
    · rintro ⟨level', heq, hwritten⟩
      cases heq
      exact ⟨l, hwritten, s, rfl, rfl⟩

/-! ## Messages -/

/-- A message is read just if an event is written in one of the two ways. -/
theorem decode_eq_ok_iff {v : Json} (hv : v.HasDistinctNames) {e : Event} : decode v = .ok e ↔ e.Written v := by
  cases v with
  | object members =>
    cases htype : members.lookup "type" with
    | none =>
      simp only [decode, htype]
      refine iff_of_false nofun fun h => ?_
      cases h with
      | members htag => exact nomatch htype.symm.trans htag
    | some tag =>
      have hrest : ((members.filter (·.1 != "type")).map (·.1)).Nodup := hv.sublist (List.filter_sublist.map _)
      simp only [decode, htype, Json.bind_eq_ok_iff, checkTag_eq_ok_iff, ofMembers_eq_ok_iff hrest,
        lookup_filter_key (p := (· != "type")) (show "level" != "type" by decide),
        lookup_filter_key (p := (· != "type")) (show "payload" != "type" by decide)]
      constructor
      · rintro ⟨-, rfl, ⟨level, hlevel, hwritten⟩, hpayload⟩
        exact .members htype hlevel hwritten hpayload
      · intro h
        cases h with
        | members htag hlevel hwritten hpayload =>
          exact ⟨(), Option.some.inj (htype.symm.trans htag), ⟨_, hlevel, hwritten⟩, hpayload⟩
  | array items =>
    cases items with
    | nil => exact iff_of_false nofun nofun
    | cons tag items =>
      simp only [decode, Json.bind_eq_ok_iff, checkTag_eq_ok_iff, ofItems_eq_ok_iff]
      constructor
      · rintro ⟨-, rfl, level, rfl, hwritten⟩
        exact .items hwritten
      · intro h
        cases h with
        | items hwritten => exact ⟨(), rfl, _, rfl, hwritten⟩
  | _ => exact iff_of_false nofun nofun

theorem ofJson_eq_ok_iff {v : Json} {e : Event} : ofJson v = .ok e ↔ decode v = .ok e := by
  unfold ofJson
  cases decode v <;> simp

/-- A message is taken just if it is an object with the tag, a level, a text and whatever else, or an array of just these
three, where a level is its name or an object with its name as the only one and nothing behind it; and every other value
is malformed. Unless the message is an array, or its level an object, it is taken just if it is what a page posts. -/
theorem ofJson_eq_ok_iff_written (v : Json) (hv : v.HasDistinctNames) :
    (∀ e, ofJson v = .ok e ↔ e.Written v)
      ∧ ((∀ e, ¬ Written e v) → ∃ error, ofJson v = .error (.malformed error))
      ∧ ((∀ items, v ≠ .array items) →
        (∀ members inner, v = .object members → members.lookup "level" ≠ some (.object inner)) →
        ∀ e, ofJson v = .ok e ↔ e.Posted v) := by
  have hwritten (e : Event) : ofJson v = .ok e ↔ e.Written v := ofJson_eq_ok_iff.trans (decode_eq_ok_iff hv)
  refine ⟨hwritten, fun hnone => ?_, fun harray hlevel e => ?_⟩
  · unfold ofJson
    cases hdecode : decode v with
    | ok e => exact absurd ((decode_eq_ok_iff hv).1 hdecode) (hnone e)
    | error error => exact ⟨error, rfl⟩
  · rw [hwritten]
    constructor
    · intro h
      cases h with
      | members htype hl hname hpayload =>
        cases hname with
        | name => exact ⟨_, rfl, htype, hl, hpayload⟩
        | member hnothing => exact absurd hl (hlevel _ _ rfl)
      | items hname => exact absurd rfl (harray _)
    · rintro ⟨members, rfl, htype, hl, hpayload⟩
      exact .members htype hl .name hpayload

/-- Of what texts spell, a level that is written as an object is taken, a message that ends behind its tag is malformed,
and what a page posts is taken. The first text gives its payload twice, and the later one counts. -/
theorem ofJson_eq_ok_iff_written_samples :
    (∃ v, Json.parse? ("\x7b\"payload\":1,\"type\":\"bookmarklet-console\","
          ++ "\"level\":\x7b\"log\":null\x7d,\"payload\":\"x\"\x7d") = some v
        ∧ v.HasDistinctNames ∧ ofJson v = .ok ⟨.log, "x"⟩)
      ∧ (∃ v, Json.parse? "[\"bookmarklet-console\"]" = some v
        ∧ v.HasDistinctNames ∧ ∃ error, ofJson v = .error (.malformed error))
      ∧ ∃ v, Json.parse? "\x7b\"type\":\"bookmarklet-console\",\"level\":\"warn\",\"payload\":\"hi\"\x7d" = some v
        ∧ v.HasDistinctNames ∧ ofJson v = .ok ⟨.warn, "hi"⟩ := by
  have hread {text : String} {v : Json} {P : Json → Prop} (hv : Json.parse? text = some v)
      (h : v.HasDistinctNames → P v) : ∃ v, Json.parse? text = some v ∧ v.HasDistinctNames ∧ P v := by
    have hd : v.HasDistinctNames := Json.hasDistinctNames_of_parse? hv
    exact ⟨v, hv, hd, h hd⟩
  let nested : Json := .object [("level", .object [("log", .null)]), ("payload", .string "x"), ("type", .string channel)]
  let short : Json := .array [.string channel]
  let plain : Json := .object [("level", .string "warn"), ("payload", .string "hi"), ("type", .string channel)]
  refine ⟨hread (v := nested) (by decide +kernel) fun hd => ?_, hread (v := short) (by decide +kernel) fun hd => ?_,
    hread (v := plain) (by decide +kernel) fun hd => ?_⟩
  · refine ((ofJson_eq_ok_iff_written nested hd).1 _).2 (.members rfl rfl ?_ rfl)
    exact .member rfl
  · refine (ofJson_eq_ok_iff_written short hd).2.1 fun e h => ?_
    simp only [short] at h
    cases h
  · refine ((ofJson_eq_ok_iff_written plain hd).2.2 nofun ?_ _).2 ⟨_, rfl, rfl, rfl, rfl⟩
    intro members inner hobject
    rw [← Json.object.inj hobject]
    simp

/-- A level may be written otherwise than by its name. -/
theorem not_forall_ofJson_eq_ok_iff_posted :
    ¬ ∀ v : Json, v.HasDistinctNames → ∀ e, ofJson v = .ok e ↔ e.Posted v := by
  intro h
  let nested : Json :=
    .object [("level", .object [("log", .null)]), ("payload", .string "x"), ("type", .string channel)]
  have hnested : nested.HasDistinctNames := show List.Nodup _ by decide
  obtain ⟨members, hobject, -, hlevel, -⟩ := (h nested hnested ⟨.log, "x"⟩).1 rfl
  rw [← Json.object.inj hobject] at hlevel
  exact Json.noConfusion (Option.some.inj hlevel)

end Event
end Bookmarklet.Preview
