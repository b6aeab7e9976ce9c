import Mathlib
import Bookmarklet.Command.Run
import Bookmarklet.Proofs.Draft.History
import Bookmarklet.Proofs.Text.Utf8
import Bookmarklet.Workbench

/-!
# Four ways to a link

A draft builds its link, a workbench builds that of its draft through a cache, and the command builds the link for a
file, or checks the file. Each of them finds out for itself whether the script has errors: by counting them, by listing
them, or by looking for one. They agree (`builds_agree`), as a script has an error just if it is blank or refused
(`Screening.Refused`), and then no other (`Screening.errors_of_refused`).
-/

namespace Bookmarklet

namespace Screening

/-- The errors among the issues of a script. -/
def errors (source : String) : List Issue := (issues source).filter (·.isError)

/-- A script for which no link is built: one that is blank, or not accepted. -/
def Refused (source : String) : Prop :=
  Text.trim source.toList = [] ∨ ∃ e, Script.check source.toList = .error e

/-! ## The errors of a script -/

theorem isError_eq_false_of_mem_riskIssues {text : List Char} {i : Issue} (h : i ∈ riskIssues text) :
    i.isError = false := by
  obtain ⟨risk, -, h⟩ := List.mem_flatMap.1 h
  obtain ⟨o, -, rfl⟩ := List.mem_map.1 h
  rfl

theorem isError_of_mem_syntaxIssues {text : List Char} {i : Issue} (h : i ∈ syntaxIssues text) : i.isError := by
  unfold syntaxIssues at h
  split at h
  · cases h
  · cases List.mem_singleton.1 h
    rfl

theorem syntaxIssues_of_error {text : List Char} {e : Script.SyntaxError} (h : Script.check text = .error e) :
    syntaxIssues text = [.ofError ("Syntax error: " ++ e.message)] := by
  unfold syntaxIssues
  simp only [h]

theorem syntaxIssues_of_ok {text : List Char} {t : Script.Tree} (h : Script.check text = .ok t) :
    syntaxIssues text = [] := by
  unfold syntaxIssues
  simp only [h]

section Errors

variable {source : String}

/-- The errors of a script that is not blank are its syntax error. -/
theorem errors_of_not_blank (h : Text.trim source.toList ≠ []) : errors source = syntaxIssues source.toList := by
  have hissues : issues source = syntaxIssues source.toList ++ riskIssues source.toList := by
    rw [issues, if_neg (by simpa using h)]
  rw [errors, hissues, List.filter_append, List.filter_eq_self.2 fun i hi => isError_of_mem_syntaxIssues hi,
    List.filter_eq_nil_iff.2 fun i hi => by simp [isError_eq_false_of_mem_riskIssues hi], List.append_nil]

/-- A script that is refused has just one error. -/
theorem errors_of_refused (h : Refused source) : ∃ error, errors source = [error] := by
  by_cases hblank : Text.trim source.toList = []
  · refine ⟨.ofError blankMessage, ?_⟩
    rw [errors, issues, if_pos (by simpa using hblank)]
    rfl
  · obtain ⟨e, he⟩ := h.resolve_left hblank
    exact ⟨_, (errors_of_not_blank hblank).trans (syntaxIssues_of_error he)⟩

/-- Every other script has none. -/
theorem errors_of_not_refused (h : ¬ Refused source) : errors source = [] := by
  obtain ⟨hblank, hcheck⟩ := not_or.1 h
  cases he : Script.check source.toList with
  | ok t => exact (errors_of_not_blank hblank).trans (syntaxIssues_of_ok he)
  | error e => exact absurd ⟨e, he⟩ hcheck

theorem hasErrors_issues_eq (source : String) : hasErrors (issues source) = !(errors source).isEmpty := by
  rw [Bool.eq_iff_iff, hasErrors, List.any_eq_true, Bool.not_eq_true', List.isEmpty_eq_false_iff_exists_mem]
  simp [errors]

end Errors
end Screening

/-! ## Drafts and workbenches -/

/-- A draft is refused its link with the number of its errors, or gets the link of its script. -/
theorem Draft.build_eq (d : Draft) :
    d.build = if 0 < (Screening.errors d.source).length then .error (.hasErrors (Screening.errors d.source).length)
      else .ok { d with link := some (Link.build d.source) } := by
  rw [Draft.build, Draft.errorCount, List.countP_eq_length_filter]
  rfl

/-- A workbench builds what its draft would build, whatever its cache holds. -/
theorem Workbench.build_eq {m : Type → Type} (w : Workbench m) (hcache : w.cache.Reachable) :
    w.build = w.draft.build.map fun draft =>
      { w with draft, cache := (w.cache.generate w.draft.source).2 } := by
  unfold Workbench.build Draft.buildCached Draft.build
  split
  · rfl
  · rw [← hcache.faithful.link_generate w.draft.source]
    rfl

namespace Command

/-! ## Files -/

/-- A folder holds a text in a file, or as its input. -/
def Folder.Holds (f : Folder) (file source : String) : Prop :=
  if isInput file then f.input = Text.encode source.toList else f.read file = .ok (Text.encode source.toList)

/-- Arguments ask for a task, and the configuration that they name, if any, can be read. -/
def Folder.Asks (f : Folder) (arguments : List String) (task : Task) : Prop :=
  ∃ config c, Invocation.ofArguments arguments = .ok ⟨config, task⟩
    ∧ (loadConfig Folder.host config).run f = pure (.ok c, f)

/-- The command with some arguments has an outcome, and leaves the folder as it is. -/
def Folder.Ends (f : Folder) (arguments : List String) (outcome : Outcome) : Prop :=
  (run Folder.host arguments).run f = pure (outcome, f)

/-- What is printed of a link. -/
def linkOutcome (json : Bool) (link : Link) : Outcome :=
  if json then ⟨0, link.toJson.pretty ++ "\n", ""⟩
  else ⟨0, link.bookmarklet ++ "\n", "".intercalate (link.warnings.map fun w => "warning: " ++ w ++ "\n")⟩

section Files

variable {f : Folder} {file source : String} {arguments : List String} {json : Bool}

@[simp] theorem run_input : Folder.host.input.run f = pure (f.input, f) := rfl

@[simp] theorem run_read (path : String) : (Folder.host.read path).run f = pure (f.read path, f) := rfl

theorem run_readSource (h : f.Holds file source) : (readSource Folder.host file).run f = pure (.ok source, f) := by
  have hdecode : Text.decode (Text.encode source.toList) = .ok source.toList := Text.decode_eq_ok_iff.2 rfl
  unfold Folder.Holds at h
  unfold readSource
  split at h
  next hinput => simp [hinput, h, hdecode]
  next hinput => simp [hinput, readText, h, hdecode]

/-- What the arguments ask for is done. -/
theorem run_of_asks {task : Task} (h : f.Asks arguments task) :
    ∃ c, (run Folder.host arguments).run f = (perform Folder.host c task).run f := by
  obtain ⟨config, c, harguments, hconfig⟩ := h
  exact ⟨c, by simp [run, harguments, hconfig]⟩

theorem ends_build (hfile : f.Holds file source) (h : f.Asks arguments (.build file json)) :
    f.Ends arguments (buildOutcome json source) := by
  obtain ⟨c, hrun⟩ := run_of_asks h
  simp [Folder.Ends, hrun, perform, withSource, run_readSource hfile]

theorem ends_check (hfile : f.Holds file source) (h : f.Asks arguments (.check file json)) :
    f.Ends arguments (checkOutcome json (Screening.issues source)) := by
  obtain ⟨c, hrun⟩ := run_of_asks h
  simp [Folder.Ends, hrun, perform, withSource, run_readSource hfile]

end Files

/-! ## Agreement -/

/-- A draft, a workbench with any cache that comes about, and the command, asked to build the link for a file or to
check it, agree on a script: if it is refused, each of them finds one error, and otherwise each gives the same link, or
says that there is no error. -/
theorem builds_agree {m : Type → Type} {source : String} {w : Workbench m} (hsource : w.draft.source = source)
    (hcache : w.cache.Reachable) {f : Folder} {file : String} (hfile : f.Holds file source)
    {toBuild toCheck : List String} {json listed : Bool} (hbuild : f.Asks toBuild (.build file json))
    (hcheck : f.Asks toCheck (.check file listed)) :
    (Screening.Refused source → ∃ error, Screening.errors source = [error]
        ∧ (Draft.new source).build = .error (.hasErrors 1)
        ∧ w.build = .error (.hasErrors 1)
        ∧ f.Ends toBuild (Failure.outcome ⟨"1 error(s); first: " ++ error.message, []⟩)
        ∧ f.Ends toCheck { checkOutcome listed (Screening.issues source) with code := 1 })
      ∧ (¬ Screening.Refused source → ∃ link, link = Link.build source ∧ Screening.errors source = []
        ∧ (Draft.new source).build = .ok { Draft.new source with link := some link }
        ∧ (∃ w' : Workbench m, w.build = .ok w' ∧ w'.draft = { w.draft with link := some link })
        ∧ f.Ends toBuild (linkOutcome json link)
        ∧ f.Ends toCheck { checkOutcome listed (Screening.issues source) with code := 0 }) := by
  have hbuilt := ends_build hfile hbuild
  have hchecked := ends_check hfile hcheck
  rw [buildOutcome, ← Screening.errors] at hbuilt
  rw [checkOutcome, Screening.hasErrors_issues_eq] at hchecked
  constructor
  · intro h
    obtain ⟨error, herror⟩ := Screening.errors_of_refused h
    have hdraft (d : Draft) (hd : d.source = source) : d.build = .error (.hasErrors 1) := by
      rw [Draft.build_eq, hd, herror]
      rfl
    rw [herror] at hbuilt hchecked
    refine ⟨error, herror, hdraft _ rfl, ?_, hbuilt, hchecked⟩
    rw [w.build_eq hcache, hdraft _ hsource]
    rfl
  · intro h
    have herrors := Screening.errors_of_not_refused h
    have hdraft (d : Draft) (hd : d.source = source) : d.build = .ok { d with link := some (Link.build source) } := by
      rw [Draft.build_eq, hd, herrors]
      rfl
    rw [herrors] at hbuilt hchecked
    refine ⟨_, rfl, herrors, hdraft _ rfl, ?_, hbuilt, hchecked⟩
    rw [w.build_eq hcache, hdraft _ hsource]
    exact ⟨_, rfl, rfl⟩

/-- A script in a file, whose link is printed, and a blank one as the input, for which none is built. The workbench has
built the link of another script and that of this one before, and hands out what it keeps. -/
theorem builds_agree_samples :
    let f : Folder := ⟨[(["a.js"], Text.encode "f()".toList)], Text.encode " ".toList⟩
    let filled : Link.Cache := (((Link.Cache.empty Link.Cache.defaultCapacity).generate "g()").2.generate "f()").2
    let w (source : String) : Workbench Id := { Workbench.start .default with draft := .new source, cache := filled }
    (f.Holds "a.js" "f()" ∧ f.Asks ["build", "a.js", "--json"] (.build "a.js" true)
        ∧ f.Asks ["check", "a.js"] (.check "a.js" false) ∧ (w "f()").cache.Reachable
        ∧ (w "f()").cache.contains "f()" ∧ ¬ Screening.Refused "f()"
        ∧ (∃ w' : Workbench Id, (w "f()").build = .ok w' ∧ w'.draft.link = some (Link.build "f()"))
        ∧ f.Ends ["build", "a.js", "--json"] (linkOutcome true (Link.build "f()")))
      ∧ f.Holds "-" " " ∧ f.Asks ["build", "-"] (.build "-" false) ∧ f.Asks ["check", "-"] (.check "-" false)
        ∧ (w " ").cache.Reachable ∧ Screening.Refused " " ∧ (w " ").build = .error (.hasErrors 1) := by
  intro f filled w
  have hsplit : "a.js".splitOn "/" = ["a.js"] := by cbv
  have hdash : "-".splitOn "/" = ["-"] := by cbv
  have hfile : f.Holds "a.js" "f()" := by
    rw [Folder.Holds, if_neg (by rw [isInput, hsplit]; decide), Folder.read, partsOf, endsInDirectory, hsplit]
    rfl
  have hinput : f.Holds "-" " " := by
    rw [Folder.Holds, if_pos (by rw [isInput, hdash]; decide)]
  have hbuild : f.Asks ["build", "a.js", "--json"] (.build "a.js" true) := ⟨none, .default, by decide +kernel, rfl⟩
  have hcheck : f.Asks ["check", "a.js"] (.check "a.js" false) := ⟨none, .default, by decide +kernel, rfl⟩
  have hbuild' : f.Asks ["build", "-"] (.build "-" false) := ⟨none, .default, by decide +kernel, rfl⟩
  have hcheck' : f.Asks ["check", "-"] (.check "-" false) := ⟨none, .default, by decide +kernel, rfl⟩
  have hcache (source : String) : (w source).cache.Reachable := .generate _ (.generate _ (.empty _))
  have hkept : filled.contains "f()" := by decide +kernel
  have hrefused : Screening.Refused " " := .inl (by decide)
  have haccepted : ¬ Screening.Refused "f()" := by
    have hok : (Script.check "f()".toList).toOption.isSome := by decide +kernel
    rintro (hblank | ⟨e, he⟩)
    · exact absurd hblank (by decide +kernel)
    · rw [he] at hok
      cases hok
  obtain ⟨_, rfl, -, -, ⟨w', hbuilt, hdraft⟩, hended, -⟩ :=
    (builds_agree (w := w "f()") rfl (hcache _) hfile hbuild hcheck).2 haccepted
  obtain ⟨_, -, -, hworkbench, -, -⟩ :=
    (builds_agree (w := w " ") rfl (hcache _) hinput hbuild' hcheck').1 hrefused
  have hlink : w'.draft.link = some (Link.build "f()") := congrArg Draft.link hdraft
  exact ⟨⟨hfile, hbuild, hcheck, hcache _, hkept, haccepted, ⟨w', hbuilt, hlink⟩, hended⟩, hinput, hbuild', hcheck',
    hcache _, hrefused, hworkbench⟩

end Command
end Bookmarklet
