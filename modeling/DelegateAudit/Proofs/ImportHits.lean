import DelegateAudit.Proofs.FirstOccurrences
import DelegateAudit.Proofs.Sources
import DelegateAudit.Proofs.Verdict

/-!
# DelegateAudit — the sources that match, in order

`SourceMatcher.addImportHits` filters, looks up and removes repetitions in a single pass. A path is
passed over for two reasons, a wrong ending or a hit before, and a path that was looked up in vain
is looked up again each time it comes. None of this shows in the result. As long as no look-up ends
with a fault, the paths found are those that end in `.sol` and match, each at its first place
(`SourceMatcher.importHits_first_occurrences`).

The invariant of the pass is that the hits found so far are the first occurrences among the paths
seen so far. Everything else follows, because there is only one list of first occurrences.
-/

namespace DelegateAudit.SourceMatcher

/-- The path ends in `.sol`, and one of the files that it may mean matches. -/
def IsHit (m : SourceMatcher) (source : Text) : Prop :=
  (".sol" : Text) <:+ source ∧ (m.matchesSource (some source)).outcome = .ok true

/-- Looking up the paths that end in `.sol` ends without a fault. -/
def LooksUp (m : SourceMatcher) (sources : List Text) : Prop :=
  ∀ source ∈ sources, (".sol" : Text) <:+ source →
    ∃ hit, (m.matchesSource (some source)).outcome = .ok hit

variable {m : SourceMatcher} {source : Text} {seen hits sources : List Text}

theorem LooksUp.mono {more : List Text} (h : m.LooksUp sources) (hmore : more ⊆ sources) :
    m.LooksUp more :=
  fun source hmem => h source (hmore hmem)

/-- **One path.** Whatever is done with it, the hits are then the first occurrences among the paths
up to this one. -/
theorem addImportHits_step (h : ListsFirst m.IsHit seen hits) (rest : List Text)
    (hlook : (".sol" : Text) <:+ source →
      ∃ hit, (m.matchesSource (some source)).outcome = .ok hit) :
    ∃ hits', ListsFirst m.IsHit (seen ++ [source]) hits' ∧
      (m.addImportHits hits (source :: rest)).outcome = (m.addImportHits hits' rest).outcome := by
  rw [addImportHits]
  by_cases hskip : (!(".sol" : Text).isSuffixOf source || hits.elem source) = true
  · -- a wrong ending, or a hit before
    rw [if_pos hskip]
    refine ⟨hits, h.skip fun hhit => ?_, rfl⟩
    exact (passedOver_iff.mp hskip).resolve_left (not_not_intro hhit.1)
  · rw [if_neg hskip]
    obtain ⟨hending, hnew⟩ := not_or.mp (mt passedOver_iff.mpr hskip)
    obtain ⟨hit, hmatch⟩ := hlook (not_not.mp hending)
    rw [Run.outcome_bind_of_ok hmatch]
    cases hit with
    | true => exact ⟨hits ++ [source], h.keep ⟨not_not.mp hending, hmatch⟩ hnew, rfl⟩
    | false =>
      refine ⟨hits, h.skip fun hhit => ?_, rfl⟩
      cases hmatch.symm.trans hhit.2

/-- **The whole pass.** -/
theorem addImportHits_first (h : ListsFirst m.IsHit seen hits) (hlook : m.LooksUp sources) :
    ∃ result, (m.addImportHits hits sources).outcome = .ok result ∧
      ListsFirst m.IsHit (seen ++ sources) result := by
  induction sources generalizing seen hits with
  | nil => exact ⟨hits, rfl, by rwa [List.append_nil]⟩
  | cons source rest ih =>
    obtain ⟨hits', hfirst, hstep⟩ := addImportHits_step h rest (hlook source List.mem_cons_self)
    obtain ⟨result, hresult, hlists⟩ := ih hfirst (hlook.mono (List.subset_cons_self source rest))
    refine ⟨result, hstep.trans hresult, ?_⟩
    rwa [List.append_assoc] at hlists

theorem importHits_first (hlook : m.LooksUp sources) :
    ∃ hits, (m.importHits sources).outcome = .ok hits ∧ ListsFirst m.IsHit sources hits :=
  addImportHits_first (ListsFirst.nil _) hlook

/-- Whatever is the list of first occurrences is what is found. -/
theorem importHits_of_listsFirst (hlook : m.LooksUp sources)
    (h : ListsFirst m.IsHit sources hits) : (m.importHits sources).outcome = .ok hits := by
  obtain ⟨found, hfound, hfirst⟩ := importHits_first hlook
  rw [hfound, hfirst.unique h]

/-- **The hits are the paths that end in `.sol` and match, each once and in the order of their first
occurrence.** The hits of the hits are the same, and so are those of the paths followed by any of
them again, in whatever order. -/
theorem importHits_first_occurrences (m : SourceMatcher) (sources : List Text)
    (hlook : m.LooksUp sources) :
    ∃ hits, (m.importHits sources).outcome = .ok hits ∧ ListsFirst m.IsHit sources hits ∧
      (m.importHits hits).outcome = .ok hits ∧
      ∀ more ⊆ sources, (m.importHits (sources ++ more)).outcome = .ok hits := by
  obtain ⟨hits, hhits, hfirst⟩ := importHits_first hlook
  refine ⟨hits, hhits, hfirst, ?_, ?_⟩
  · have hsub : hits ⊆ sources := fun source hmem => ((hfirst.mem_iff source).mp hmem).1
    exact importHits_of_listsFirst (hlook.mono hsub) hfirst.self
  · intro more hmore
    have happend : sources ++ more ⊆ sources := List.append_subset.mpr ⟨fun _ h => h, hmore⟩
    exact importHits_of_listsFirst (hlook.mono happend) (hfirst.append hmore)

/-- Two sources that match and one that does not, and a text with the wrong ending. -/
def library : SourceMatcher where
  tree := { entries := [("lib", .dir
    [("A.sol", .ofText "t.delegatecall(d)"), ("B.sol", .ofText "pass"),
     ("C.sol", .ofText "t.delegatecall (d)"), ("N.txt", .ofText "t.delegatecall(d)")])] }
  root := Path.ofText "lib"
  patterns := .standard

/-- Every source comes twice, whether it is found, looked up in vain or passed over. -/
def repeatedSources : List Text :=
  ["C.sol", "B.sol", "N.txt", "C.sol", "A.sol", "B.sol", "N.txt", "A.sol"]

theorem importHits_first_occurrences_library :
    library.LooksUp repeatedSources ∧
      (library.importHits repeatedSources).outcome = .ok ["C.sol", "A.sol"] ∧
      (library.importHits ["C.sol", "A.sol"]).outcome = .ok ["C.sol", "A.sol"] ∧
      (library.importHits (repeatedSources ++ [("A.sol" : Text), "N.txt", "C.sol"])).outcome =
        .ok ["C.sol", "A.sol"] := by
  have hlook : library.LooksUp repeatedSources := by
    have hfound : ∀ source ∈ repeatedSources, (".sol" : Text) <:+ source →
        (library.matchesSource (some source)).outcome = .ok true ∨
          (library.matchesSource (some source)).outcome = .ok false := by decide +kernel
    intro source hmem hending
    rcases hfound source hmem hending with hhit | hhit
    · exact ⟨true, hhit⟩
    · exact ⟨false, hhit⟩
  have houtcome : (library.importHits repeatedSources).outcome = .ok ["C.sol", "A.sol"] := by
    decide +kernel
  obtain ⟨hits, hhits, -, hself, hmore⟩ :=
    importHits_first_occurrences library repeatedSources hlook
  obtain rfl := Except.ok.inj (houtcome.symm.trans hhits)
  exact ⟨hlook, houtcome, hself, hmore _ (by decide)⟩

end DelegateAudit.SourceMatcher
