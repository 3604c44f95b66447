import Catalog.Proofs.Store.Footprint

/-!
# A record made pending again while a pass holds its mark

A pass reads its pending input, processes a record, and holds back the mark saying that the
service processed it until its batch ends. Meanwhile another writer may rewrite the record:
a harvest that brings a new version of it, or another service's pass that routes it to the
service again. Either makes the record pending for the service once more, so that a later
pass would process the new version.

Ending a batch does not look at what happened to a record since the pass read it: it applies
every mark it holds to the store as it finds it. So a record made pending again between the
read and the batch end is processed by the service and no longer input for it once the batch
ends, and the new version waits for no pass. Nothing in the store records the version a
mark was made for.

## Main results

* `Batch.commit_unpends`: after a batch ends, the record of every mark it held is not pending
  for the service, whatever the store held before the end
* `repending_lost_at_batch_end`: a record read, rewritten by another writer to be input for
  the service again, and then marked by the batch end, is not pending afterwards
-/

namespace Catalog.Store

/-- Ending a batch applies every mark it holds over whatever the store holds by then: the
record of a held mark is processed by the service and no longer input for it, so it is not
pending for the service, whatever was written to it since the pass read it. -/
theorem Batch.commit_unpends {b : Batch} {s t : Store} {n : Nat × Nat} {x service : Int}
    (hmark : (x, service) ∈ b.marks) (h : b.commit.run s = .ok (n, t)) :
    (x, service) ∈ t.processedBy ∧ (x, service) ∉ t.inputFor ∧
      ∀ row ∈ t.records, row.id = x →
        ∀ recordType after, t.isPending service recordType after row = false := by
  have hc := Batch.commit_committed h
  have hprocessed : (x, service) ∈ t.processedBy := (hc.processedBy _).2 (.inr hmark)
  have hinput : (x, service) ∉ t.inputFor := fun hin => ((hc.inputFor _).1 hin).2 hmark
  refine ⟨hprocessed, hinput, fun row _ hid recordType after => ?_⟩
  subst hid
  simp [isPending, hinput]

/-- A batch holding the mark of record 1 for service 1 ends on a store where the record is
input for the service again. -/
theorem held_mark_ends_repending :
    let x : RecordRow :=
      { id := 1, repo := "provider:p", oaiId := "x", format := "marc21", recordType := none,
        status := .active, payload := .obj [], visible := true, batch := none, updatedAt := 0 }
    let s : Store := { records := [x], inputFor := [(1, 1)] }
    let b : Batch := { repo := "service:S", id := 1, marks := [(1, 1)] }
    ∃ n t, ((1, 1) ∈ b.marks ∧ b.commit.run s = .ok (n, t)) ∧
      ((1, 1) ∈ t.processedBy ∧ (1, 1) ∉ t.inputFor ∧
        ∀ row ∈ t.records, row.id = 1 →
          ∀ recordType after, t.isPending 1 recordType after row = false) := by
  intro x s b
  have hmark : ((1 : Int), (1 : Int)) ∈ b.marks := by decide
  obtain ⟨n, t, h⟩ : ∃ n t, b.commit.run s = .ok (n, t) := ⟨_, _, rfl⟩
  exact ⟨n, t, ⟨hmark, h⟩, Batch.commit_unpends hmark h⟩

/-- A new version of a record waits for no pass when it arrives while a pass holds the
record's mark. Record 1 is pending for service 1 when the pass reads it, and the pass's batch
holds its mark. A writer then rewrites the record with a new payload, as input for service 1
and processed by none, so that it is pending again. When the batch ends, the record is no
longer pending for service 1. -/
theorem repending_lost_at_batch_end :
    let x : RecordRow :=
      { id := 1, repo := "provider:p", oaiId := "x", format := "marc21", recordType := none,
        status := .active, payload := .obj [], visible := true, batch := none, updatedAt := 0 }
    let recordTable : Sql.Table :=
      { name := "records", columns := [], rowidColumn := none, primaryKey := [],
        autoincrement := false, checks := [], foreignKeys := [], rows := [], sql := "" }
    let s : Store :=
      { records := [x], inputFor := [(1, 1)], tables := { main := [.table recordTable] } }
    let newVersion : Record :=
      { id := some 1, oaiId := "x", format := "marc21", inputFor := [1]
        payload := .obj [("fields", .obj [("245a", .arr [.str "New"])])] }
    let b : Batch := { repo := "service:S", id := 1, marks := [(1, 1)] }
    s.countPending 1 none = 1 ∧
      ((updateRecord "provider:p" newVersion).run s).toOption.map
        (fun p => p.2.countPending 1 none) = some 1 ∧
      ((updateRecord "provider:p" newVersion).run s >>= fun p => b.commit.run p.2).toOption.map
        (fun p => p.2.countPending 1 none) = some 0 := by
  decide

end Catalog.Store
