import Bookmarklet.Assist.Request
import Bookmarklet.Proofs.Json.Record
import Bookmarklet.Proofs.Preview.Message
import Bookmarklet.Response

/-!
# What travels comes back

Responses, requests and events travel as objects, whose members come in any order (`Json.rearrange`). For each record it
is said once what a member does to it (`Response.Record.set_cases`, …), and from this that each field has its member
(`Response.Record.isField_code`, …). The names of the members that are written differ (`Response.Record.nodup_members`,
…), so each field is read from the member that was made of it, or keeps its default where none was written: the members
tell the record, in any order (`Response.Record.ofJson_members`, …). With this all that travels is read back as it was
(`ofJson_toJson_in_any_order`).
-/

namespace Bookmarklet

/-! ## Members in another order -/

namespace Json

section Rearrange

variable (arrange : List (String × Json) → List (String × Json))

mutual
/-- A value with the members of its objects, at any depth, in another order. -/
def rearrange : Json → Json
  | array items => array (rearrangeItems items)
  | object members => object (arrange (rearrangeMembers members))
  | v => v

def rearrangeItems : List Json → List Json
  | [] => []
  | v :: vs => v.rearrange :: rearrangeItems vs

def rearrangeMembers : List (String × Json) → List (String × Json)
  | [] => []
  | (name, v) :: members => (name, v.rearrange) :: rearrangeMembers members
end

@[simp] theorem rearrange_string (s : String) : (string s).rearrange arrange = string s := by simp [rearrange]

@[simp] theorem rearrange_bool (b : Bool) : (bool b).rearrange arrange = bool b := by simp [rearrange]

@[simp] theorem rearrange_integer (n : Int) : (integer n).rearrange arrange = integer n := by simp [rearrange]

theorem rearrangeItems_eq_map (items : List Json) : rearrangeItems arrange items = items.map (·.rearrange arrange) := by
  induction items with
  | nil => rw [rearrangeItems, List.map_nil]
  | cons v items ih => rw [rearrangeItems, List.map_cons, ih]

theorem rearrangeMembers_eq_map (members : List (String × Json)) :
    rearrangeMembers arrange members = members.map fun m => (m.1, m.2.rearrange arrange) := by
  induction members with
  | nil => rw [rearrangeMembers, List.map_nil]
  | cons m members ih => rw [rearrangeMembers, List.map_cons, ih]

@[simp] theorem rearrange_ofStrings (items : List String) : (ofStrings items).rearrange arrange = ofStrings items := by
  simp [ofStrings, rearrange, rearrangeItems_eq_map]

mutual
/-- With every member in its place, nothing changes. -/
@[simp] theorem rearrange_id : ∀ v : Json, v.rearrange id = v
  | array items => by rw [rearrange, rearrangeItems_id items]
  | object members => by rw [rearrange, rearrangeMembers_id members, id]
  | null | bool _ | integer _ | decimal _ | string _ => by simp [rearrange]

theorem rearrangeItems_id : ∀ items : List Json, rearrangeItems id items = items
  | [] => rfl
  | v :: vs => by rw [rearrangeItems, rearrange_id v, rearrangeItems_id vs]

theorem rearrangeMembers_id : ∀ members : List (String × Json), rearrangeMembers id members = members
  | [] => rfl
  | (name, v) :: members => by rw [rearrangeMembers, rearrange_id v, rearrangeMembers_id members]
end

end Rearrange
end Json

/-! ## Responses -/

namespace Response.Record

theorem nodup_members (r : Record) : (r.members.map (·.1)).Nodup := by
  have hblocked : ((if r.blocked then [("blocked", Json.bool true)] else []).map (·.1)).Sublist ["blocked"] := by
    cases r.blocked <;> simp
  have hnames : (r.members.map (·.1)).Sublist names := by
    simp only [members, List.map_append]
    exact (((Json.names_optionalMember.append Json.names_optionalMember).append Json.names_optionalMember).append
      hblocked).append Json.names_optionalMember
  exact (show names.Nodup by decide).sublist hnames

/-- What a member does to a record. -/
theorem set_cases {name : String} {v : Json} {r r' : Record} (h : set name v r = .ok r') :
    (name = "code" ∧ ∃ c, v.asOptional Json.asString = .ok c ∧ r' = { r with code := c })
      ∨ (name = "warnings" ∧ ∃ w, v.asOptional Json.asStrings = .ok w ∧ r' = { r with warnings := w })
      ∨ (name = "explanation" ∧ ∃ e, v.asOptional Json.asStrings = .ok e ∧ r' = { r with explanation := e })
      ∨ (name = "blocked" ∧ ∃ b, v.asBool = .ok b ∧ r' = { r with blocked := b })
      ∨ (name = "blockReason" ∧ ∃ b, v.asOptional Json.asString = .ok b ∧ r' = { r with reason := b })
      ∨ (name ∉ names ∧ r' = r) := by
  unfold set at h
  split at h
  · obtain ⟨c, hc, heq⟩ := Json.bind_eq_ok_iff.1 h
    cases heq
    exact .inl ⟨rfl, c, hc, rfl⟩
  · obtain ⟨w, hw, heq⟩ := Json.bind_eq_ok_iff.1 h
    cases heq
    exact .inr (.inl ⟨rfl, w, hw, rfl⟩)
  · obtain ⟨e, he, heq⟩ := Json.bind_eq_ok_iff.1 h
    cases heq
    exact .inr (.inr (.inl ⟨rfl, e, he, rfl⟩))
  · obtain ⟨b, hb, heq⟩ := Json.bind_eq_ok_iff.1 h
    cases heq
    exact .inr (.inr (.inr (.inl ⟨rfl, b, hb, rfl⟩)))
  · obtain ⟨b, hb, heq⟩ := Json.bind_eq_ok_iff.1 h
    cases heq
    exact .inr (.inr (.inr (.inr (.inl ⟨rfl, b, hb, rfl⟩))))
  next h1 h2 h3 h4 h5 =>
    cases h
    exact .inr (.inr (.inr (.inr (.inr ⟨by simpa [names] using ⟨h1, h2, h3, h4, h5⟩, rfl⟩))))

theorem isField_code : Json.IsField set "code" (·.asOptional Json.asString) (·.code) where
  own h := by grind [names, set_cases h]
  other _ h := by grind [set_cases h]

theorem isField_warnings : Json.IsField set "warnings" (·.asOptional Json.asStrings) (·.warnings) where
  own h := by grind [names, set_cases h]
  other _ h := by grind [set_cases h]

theorem isField_explanation : Json.IsField set "explanation" (·.asOptional Json.asStrings) (·.explanation) where
  own h := by grind [names, set_cases h]
  other _ h := by grind [set_cases h]

theorem isField_blocked : Json.IsField set "blocked" Json.asBool (·.blocked) where
  own h := by grind [names, set_cases h]
  other _ h := by grind [set_cases h]

theorem isField_reason : Json.IsField set "blockReason" (·.asOptional Json.asString) (·.reason) where
  own h := by grind [names, set_cases h]
  other _ h := by grind [set_cases h]

theorem asOptional_ofStrings (items : List String) :
    (Json.ofStrings items).asOptional Json.asStrings = .ok (some items) := by
  rw [Json.asOptional, Json.asStrings_ofStrings]
  · rfl
  · nofun

/-- Each member of a record can be taken. -/
theorem exists_set {r : Record} {name : String} {v : Json} (hm : (name, v) ∈ r.members) (s : Record) :
    ∃ s', set name v s = .ok s' := by
  simp only [members, List.mem_append, Json.mem_optionalMember] at hm
  obtain (((⟨rfl, c, -, rfl⟩ | ⟨rfl, w, -, rfl⟩) | ⟨rfl, e, -, rfl⟩) | hblocked) | ⟨rfl, b, -, rfl⟩ := hm
  · exact ⟨{ s with code := some c }, rfl⟩
  · exact ⟨{ s with warnings := some w }, by simp only [set, asOptional_ofStrings]; rfl⟩
  · exact ⟨{ s with explanation := some e }, by simp only [set, asOptional_ofStrings]; rfl⟩
  · split at hblocked
    · cases List.mem_singleton.1 hblocked
      exact ⟨{ s with blocked := true }, rfl⟩
    · cases hblocked
  · exact ⟨{ s with reason := some b }, rfl⟩

/-- The members of a record tell the record, in any order. -/
theorem ofJson_members {r : Record} {ms : List (String × Json)} (hms : ms.Perm r.members) :
    ofJson (.object ms) = .ok r := by
  have hd : (ms.map (·.1)).Nodup := (hms.map _).nodup_iff.2 r.nodup_members
  obtain ⟨r', hfill⟩ := Json.exists_fill (fun m hm s => exists_set (hms.mem_iff.1 hm) s) blank
  have hcode : r'.code = r.code :=
    isField_code.get_of_optional (f := .string) hd (by simp [hms.mem_iff, members, Json.mem_optionalMember]) rfl
      (fun _ => rfl) hfill
  have hwarnings : r'.warnings = r.warnings :=
    isField_warnings.get_of_optional (f := .ofStrings) hd (by simp [hms.mem_iff, members, Json.mem_optionalMember]) rfl
      asOptional_ofStrings hfill
  have hexplanation : r'.explanation = r.explanation :=
    isField_explanation.get_of_optional (f := .ofStrings) hd
      (by simp [hms.mem_iff, members, Json.mem_optionalMember]) rfl asOptional_ofStrings hfill
  have hreason : r'.reason = r.reason :=
    isField_reason.get_of_optional (f := .string) hd (by simp [hms.mem_iff, members, Json.mem_optionalMember]) rfl
      (fun _ => rfl) hfill
  have hblocked : r'.blocked = r.blocked := by
    by_cases hb : r.blocked
    · have hm : ("blocked", .bool true) ∈ ms := by simp [hms.mem_iff, members, hb]
      have hget : Json.asBool (.bool true) = .ok r'.blocked := isField_blocked.decode_of_mem hd hm hfill
      rw [hb, ← Except.ok.inj hget]
    -- Only refusals have the member, the others keep the default.
    · rw [isField_blocked.get_of_not_mem ?_ hfill]
      · simp [blank, hb]
      · rw [(hms.map _).mem_iff]
        simp [members, hb, Json.mem_optionalMember]
  have hr : r' = r := by
    cases r
    cases r'
    simp_all only
  exact hr ▸ hfill

end Response.Record

namespace Response

variable {arrange : List (String × Json) → List (String × Json)}

theorem ofRecord_toRecord (r : Response) : ofRecord r.toRecord = .ok r := by
  cases r <;> rfl

theorem ofJson_rearrange (harrange : ∀ ms, (arrange ms).Perm ms) (r : Response) :
    ofJson (r.toJson.rearrange arrange) = .ok r := by
  have hflat : Json.rearrangeMembers arrange r.toRecord.members = r.toRecord.members := by
    rw [Json.rearrangeMembers_eq_map]
    cases r <;> simp [toRecord, Record.members, Record.blank, Json.optionalMember]
  have hrecord : Record.ofJson (r.toJson.rearrange arrange) = .ok r.toRecord := by
    rw [toJson, Record.toJson, Json.rearrange, hflat]
    exact Record.ofJson_members (harrange _)
  simp only [ofJson, hrecord, ofRecord_toRecord]

end Response

/-! ## Requests -/

namespace Assist.Options

theorem nodup_members (o : Options) : (o.members.map (·.1)).Nodup := by
  have hnames : (o.members.map (·.1)).Sublist ["category", "maxChars", "tone"] := by
    simp only [members, List.map_append]
    exact (Json.names_optionalMember.append Json.names_optionalMember).append Json.names_optionalMember
  exact (show ["category", "maxChars", "tone"].Nodup by decide).sublist hnames

/-- What a member does to options. -/
theorem set_cases {name : String} {v : Json} {o o' : Options} (h : set name v o = .ok o') :
    (name = "category" ∧
        ∃ c, v.asOptional (Json.asVariant Json.isNull Category.names) = .ok c ∧ o' = { o with category := c })
      ∨ (name = "maxChars" ∧ ∃ n, v.asOptional Json.asSize = .ok n ∧ o' = { o with maxChars := n })
      ∨ (name = "tone" ∧
        ∃ t, v.asOptional (Json.asVariant Json.isNull Tone.names) = .ok t ∧ o' = { o with tone := t })
      ∨ (name ∉ ["category", "maxChars", "tone"] ∧ o' = o) := by
  unfold set at h
  split at h
  · obtain ⟨c, hc, heq⟩ := Json.bind_eq_ok_iff.1 h
    cases heq
    exact .inl ⟨rfl, c, hc, rfl⟩
  · obtain ⟨n, hn, heq⟩ := Json.bind_eq_ok_iff.1 h
    cases heq
    exact .inr (.inl ⟨rfl, n, hn, rfl⟩)
  · obtain ⟨t, ht, heq⟩ := Json.bind_eq_ok_iff.1 h
    cases heq
    exact .inr (.inr (.inl ⟨rfl, t, ht, rfl⟩))
  next h1 h2 h3 =>
    cases h
    exact .inr (.inr (.inr ⟨by simpa using ⟨h1, h2, h3⟩, rfl⟩))

theorem isField_category :
    Json.IsField set "category" (·.asOptional (Json.asVariant Json.isNull Category.names)) (·.category) where
  own h := by grind [set_cases h]
  other _ h := by grind [set_cases h]

theorem isField_maxChars : Json.IsField set "maxChars" (·.asOptional Json.asSize) (·.maxChars) where
  own h := by grind [set_cases h]
  other _ h := by grind [set_cases h]

theorem isField_tone : Json.IsField set "tone" (·.asOptional (Json.asVariant Json.isNull Tone.names)) (·.tone) where
  own h := by grind [set_cases h]
  other _ h := by grind [set_cases h]

theorem asOptional_category (c : Category) :
    (Json.string c.name).asOptional (Json.asVariant Json.isNull Category.names) = .ok (some c) := by
  cases c <;> rfl

theorem asOptional_maxChars (n : Nat) : (Json.integer n).asOptional Json.asSize = .ok (some n) := by
  simp [Json.asOptional, Json.asSize, Except.map]

theorem asOptional_tone (t : Tone) :
    (Json.string t.name).asOptional (Json.asVariant Json.isNull Tone.names) = .ok (some t) := by
  cases t <;> rfl

/-- Each member of options can be taken. -/
theorem exists_set {o : Options} {name : String} {v : Json} (hm : (name, v) ∈ o.members) (s : Options) :
    ∃ s', set name v s = .ok s' := by
  simp only [members, List.mem_append, Json.mem_optionalMember] at hm
  obtain (⟨rfl, c, -, rfl⟩ | ⟨rfl, n, -, rfl⟩) | ⟨rfl, t, -, rfl⟩ := hm
  · exact ⟨{ s with category := some c }, by simp only [set, asOptional_category]; rfl⟩
  · exact ⟨{ s with maxChars := some n }, by simp only [set, asOptional_maxChars]; rfl⟩
  · exact ⟨{ s with tone := some t }, by simp only [set, asOptional_tone]; rfl⟩

/-- The members of options tell the options, in any order. -/
theorem ofJson_members {o : Options} {ms : List (String × Json)} (hms : ms.Perm o.members) :
    ofJson (.object ms) = .ok o := by
  have hd : (ms.map (·.1)).Nodup := (hms.map _).nodup_iff.2 o.nodup_members
  obtain ⟨o', hfill⟩ := Json.exists_fill (fun m hm s => exists_set (hms.mem_iff.1 hm) s) .none
  have hcategory : o'.category = o.category :=
    isField_category.get_of_optional (f := fun c => .string c.name) hd
      (by simp [hms.mem_iff, members, Json.mem_optionalMember]) rfl asOptional_category hfill
  have hmaxChars : o'.maxChars = o.maxChars :=
    isField_maxChars.get_of_optional (f := fun n : Nat => .integer n) hd
      (by simp [hms.mem_iff, members, Json.mem_optionalMember]) rfl asOptional_maxChars hfill
  have htone : o'.tone = o.tone :=
    isField_tone.get_of_optional (f := fun t => .string t.name) hd
      (by simp [hms.mem_iff, members, Json.mem_optionalMember]) rfl asOptional_tone hfill
  have ho : o' = o := by
    cases o
    cases o'
    simp_all only
  exact ho ▸ hfill

end Options
namespace Request

theorem nodup_members (r : Request) (options : Json) : ((r.members options).map (·.1)).Nodup := by
  have hnames : ((r.members options).map (·.1)).Sublist ["intent", "prompt", "sourceCode", "options"] := by
    simp only [members, List.map_append]
    exact ((List.Sublist.refl ["intent", "prompt"]).append Json.names_optionalMember).append (List.Sublist.refl _)
  exact (show ["intent", "prompt", "sourceCode", "options"].Nodup by decide).sublist hnames

/-- What a member does to a request. -/
theorem Fields.set_cases {name : String} {v : Json} {f f' : Fields} (h : Fields.set name v f = .ok f') :
    (name = "intent" ∧ ∃ i, v.asVariant Json.isNull Intent.names = .ok i ∧ f' = { f with intent := some i })
      ∨ (name = "prompt" ∧ ∃ p, v.asString = .ok p ∧ f' = { f with prompt := p })
      ∨ (name = "sourceCode" ∧ ∃ s, v.asOptional Json.asString = .ok s ∧ f' = { f with source := s })
      ∨ (name = "options" ∧ ∃ o, Options.ofJson v = .ok o ∧ f' = { f with options := o })
      ∨ (name ∉ ["intent", "prompt", "sourceCode", "options"] ∧ f' = f) := by
  unfold Fields.set at h
  split at h
  · obtain ⟨i, hi, heq⟩ := Json.bind_eq_ok_iff.1 h
    cases heq
    exact .inl ⟨rfl, i, hi, rfl⟩
  · obtain ⟨p, hp, heq⟩ := Json.bind_eq_ok_iff.1 h
    cases heq
    exact .inr (.inl ⟨rfl, p, hp, rfl⟩)
  · obtain ⟨s, hs, heq⟩ := Json.bind_eq_ok_iff.1 h
    cases heq
    exact .inr (.inr (.inl ⟨rfl, s, hs, rfl⟩))
  · obtain ⟨o, ho, heq⟩ := Json.bind_eq_ok_iff.1 h
    cases heq
    exact .inr (.inr (.inr (.inl ⟨rfl, o, ho, rfl⟩)))
  next h1 h2 h3 h4 =>
    cases h
    exact .inr (.inr (.inr (.inr ⟨by simpa using ⟨h1, h2, h3, h4⟩, rfl⟩)))

theorem isField_intent :
    Json.IsField Fields.set "intent" (fun v => (v.asVariant Json.isNull Intent.names).map some) (·.intent) where
  own h := by grind [Fields.set_cases h, Except.map]
  other _ h := by grind [Fields.set_cases h]

theorem isField_prompt : Json.IsField Fields.set "prompt" Json.asString (·.prompt) where
  own h := by grind [Fields.set_cases h]
  other _ h := by grind [Fields.set_cases h]

theorem isField_source : Json.IsField Fields.set "sourceCode" (·.asOptional Json.asString) (·.source) where
  own h := by grind [Fields.set_cases h]
  other _ h := by grind [Fields.set_cases h]

theorem isField_options : Json.IsField Fields.set "options" Options.ofJson (·.options) where
  own h := by grind [Fields.set_cases h]
  other _ h := by grind [Fields.set_cases h]

theorem asVariant_intent (i : Intent) : (Json.string i.name).asVariant Json.isNull Intent.names = .ok i := by
  cases i <;> rfl

section Members

variable {r : Request} {options : Json} {ms : List (String × Json)}

/-- Each member of a request can be taken. -/
theorem exists_set (hoptions : Options.ofJson options = .ok r.options) {name : String} {v : Json}
    (hm : (name, v) ∈ r.members options) (f : Fields) : ∃ f', Fields.set name v f = .ok f' := by
  simp only [members, List.mem_append, List.mem_cons, List.not_mem_nil, or_false, Json.mem_optionalMember,
    Prod.mk.injEq] at hm
  obtain ((⟨rfl, rfl⟩ | ⟨rfl, rfl⟩) | ⟨rfl, s, -, rfl⟩) | ⟨rfl, rfl⟩ := hm
  · exact ⟨{ f with intent := some r.intent }, by simp only [Fields.set, asVariant_intent]; rfl⟩
  · exact ⟨{ f with prompt := r.prompt }, rfl⟩
  · exact ⟨{ f with source := some s }, rfl⟩
  · exact ⟨{ f with options := r.options }, by simp only [Fields.set, hoptions]; rfl⟩

/-- The members of a request tell the request, in any order. -/
theorem ofJson_members (hoptions : Options.ofJson options = .ok r.options) (hms : ms.Perm (r.members options)) :
    ofJson (.object ms) = .ok r := by
  have hd : (ms.map (·.1)).Nodup := (hms.map _).nodup_iff.2 (r.nodup_members options)
  obtain ⟨f, hfill⟩ :=
    Json.exists_fill (fun m hm s => exists_set hoptions (hms.mem_iff.1 hm) s) ⟨none, "", none, .none⟩
  have hintent : f.intent = some r.intent := by
    have hm : ("intent", .string r.intent.name) ∈ ms := by simp [hms.mem_iff, members]
    have hget := isField_intent.decode_of_mem hd hm hfill
    rw [asVariant_intent] at hget
    exact (Except.ok.inj hget).symm
  have hprompt : f.prompt = r.prompt := by
    have hm : ("prompt", .string r.prompt) ∈ ms := by simp [hms.mem_iff, members]
    exact (Except.ok.inj (isField_prompt.decode_of_mem hd hm hfill)).symm
  have hsource : f.source = r.source :=
    isField_source.get_of_optional (f := .string) hd (by simp [hms.mem_iff, members, Json.mem_optionalMember]) rfl
      (fun _ => rfl) hfill
  have hopts : f.options = r.options := by
    have hm : ("options", options) ∈ ms := by simp [hms.mem_iff, members]
    have hget := isField_options.decode_of_mem hd hm hfill
    rw [hoptions] at hget
    exact (Except.ok.inj hget).symm
  refine Json.bind_eq_ok_iff.2 ⟨f, hfill, ?_⟩
  simp only [hintent, hprompt, hsource, hopts]
  rfl

end Members

variable {arrange : List (String × Json) → List (String × Json)}

theorem ofJson_rearrange (harrange : ∀ ms, (arrange ms).Perm ms) (r : Request) :
    ofJson (r.toJson.rearrange arrange) = .ok r := by
  have hflat : Json.rearrangeMembers arrange r.options.members = r.options.members := by
    rw [Json.rearrangeMembers_eq_map]
    obtain ⟨-, -, -, _ | c, _ | n, _ | t⟩ := r <;> simp [Options.members, Json.optionalMember]
  have hoptions : Options.ofJson (r.options.toJson.rearrange arrange) = .ok r.options := by
    rw [Options.toJson, Json.rearrange, hflat]
    exact Options.ofJson_members (harrange _)
  -- Among the members of a request only the options have members of their own.
  have hmembers : Json.rearrangeMembers arrange (r.members r.options.toJson)
      = r.members (r.options.toJson.rearrange arrange) := by
    rw [Json.rearrangeMembers_eq_map]
    obtain ⟨-, -, _ | s, -⟩ := r <;> simp [members, Json.optionalMember]
  rw [toJson, Json.rearrange, hmembers]
  exact ofJson_members hoptions (harrange _)

end Assist.Request

/-! ## Events -/

namespace Preview.Event

variable {arrange : List (String × Json) → List (String × Json)}

theorem ofJson_rearrange (harrange : ∀ ms, (arrange ms).Perm ms) (e : Event) :
    ofJson (e.toJson.rearrange arrange) = .ok e := by
  let members : List (String × Json) :=
    [("level", .string e.level.name), ("payload", .string e.payload), ("type", .string channel)]
  have hflat : Json.rearrangeMembers arrange members = members := by
    rw [Json.rearrangeMembers_eq_map]
    simp [members]
  have hd : ((arrange members).map (·.1)).Nodup := by
    rw [((harrange _).map _).nodup_iff]
    simp [members]
  have hlookup {name : String} {v : Json} (hm : (name, v) ∈ members) : (arrange members).lookup name = some v :=
    lookup_eq_some_of_mem hd ((harrange _).mem_iff.2 hm)
  rw [toJson, Json.rearrange, hflat, ofJson_eq_ok_iff, decode_eq_ok_iff (v := .object _) hd]
  exact .members (hlookup (by simp [members])) (hlookup (by simp [members])) .name (hlookup (by simp [members]))

end Preview.Event
/-! ## All that travels -/

/-- Each response, request and event is read back from what it is written as, also if the members of its objects come in
another order. -/
theorem ofJson_toJson_in_any_order :
    ((∀ r : Response, Response.ofJson r.toJson = .ok r)
      ∧ (∀ q : Assist.Request, Assist.Request.ofJson q.toJson = .ok q)
      ∧ ∀ e : Preview.Event, Preview.Event.ofJson e.toJson = .ok e)
    ∧ ∀ arrange : List (String × Json) → List (String × Json), (∀ ms, (arrange ms).Perm ms) →
      (∀ r : Response, Response.ofJson (r.toJson.rearrange arrange) = .ok r)
        ∧ (∀ q : Assist.Request, Assist.Request.ofJson (q.toJson.rearrange arrange) = .ok q)
        ∧ ∀ e : Preview.Event, Preview.Event.ofJson (e.toJson.rearrange arrange) = .ok e := by
  have hid (ms : List (String × Json)) : (id ms).Perm ms := List.Perm.refl ms
  refine ⟨⟨fun r => ?_, fun q => ?_, fun e => ?_⟩, fun arrange harrange =>
    ⟨Response.ofJson_rearrange harrange, Assist.Request.ofJson_rearrange harrange,
      Preview.Event.ofJson_rearrange harrange⟩⟩
  · rw [← r.toJson.rearrange_id]
    exact Response.ofJson_rearrange hid r
  · rw [← q.toJson.rearrange_id]
    exact Assist.Request.ofJson_rearrange hid q
  · rw [← e.toJson.rearrange_id]
    exact Preview.Event.ofJson_rearrange hid e

/-- A request and its options, with the members of both in reverse order. -/
theorem ofJson_toJson_in_any_order_reversed :
    let q : Assist.Request := ⟨.explain, "", some "", ⟨none, some 0, some .concise⟩⟩
    let v : Json := .object [("options", .object [("tone", .string "concise"), ("maxChars", .integer 0)]),
      ("sourceCode", .string ""), ("prompt", .string ""), ("intent", .string "explain")]
    (∀ ms : List (String × Json), ms.reverse.Perm ms) ∧ q.toJson.rearrange List.reverse = v
      ∧ Assist.Request.ofJson v = .ok q := by
  intro q v
  have hv : q.toJson.rearrange List.reverse = v := rfl
  exact ⟨List.reverse_perm, hv, hv ▸ (ofJson_toJson_in_any_order.2 List.reverse List.reverse_perm).2.1 q⟩

end Bookmarklet
