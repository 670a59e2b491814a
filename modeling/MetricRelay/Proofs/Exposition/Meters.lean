/-
What the exporter's own metrics show.

Each of the metrics has one sample, with the project as its label:

* `Meters.shows_apiCalls` — the requests, as a counter;
* `Meters.showsScrapes` — the scrapes and the failed ones, as counters, and whether the latest one
  has failed.
-/
import MetricRelay.Exposition.Meters

namespace MetricRelay.Exposition

/-- Families have exactly one sample of a name: a value without a time, labelled with the
project. -/
def Shows (families : List Family) (projectId name : String) (x : Float) : Prop :=
  (families.flatMap Family.samples).filter (fun s => s.name = name)
    = [⟨name, [(.ofText "project_id", .text projectId)], .real x, none⟩]

/-- Families show how many scrapes there have been, how many of them have failed, and as one or zero
whether the latest one has. -/
structure ShowsScrapes (families : List Family) (stem projectId : String) (scrapes errors : Nat)
    (failed : Bool) : Prop where
  scrapes : Shows families projectId (stem ++ "scrapes_total") (Float.ofNat scrapes)
  errors : Shows families projectId (stem ++ "scrape_errors_total") (Float.ofNat errors)
  lastError : Shows families projectId (stem ++ "last_scrape_error") (if failed then 1 else 0)

namespace Meters

theorem shows_apiCalls (m : Meters) (projectId : String) :
    Shows (m.families projectId) projectId (m.stem ++ "api_calls_total")
      (Float.ofNat m.apiCalls) := by
  simp [Shows, families, String.append_assoc]

theorem showsScrapes (m : Meters) (projectId : String) :
    ShowsScrapes (m.families projectId) m.stem projectId m.scrapes m.scrapeErrors m.lastFailed where
  scrapes := by simp [Shows, families, String.append_assoc]
  errors := by simp [Shows, families, String.append_assoc]
  lastError := by
    simp only [Shows, families, String.append_assoc]
    cases m.lastFailed <;> simp <;> rfl

/-- Meters after some further requests. -/
def recordCalls (m : Meters) (n : Nat) : Meters :=
  { m with apiCalls := m.apiCalls + n }

theorem recordCalls_recordCall (m : Meters) (n : Nat) :
    m.recordCall.recordCalls n = m.recordCalls (n + 1) := by
  simp only [recordCall, recordCalls, Nat.add_assoc, Nat.add_comm 1]

theorem recordCalls_recordCalls (m : Meters) (n k : Nat) :
    (m.recordCalls n).recordCalls k = m.recordCalls (n + k) := by
  simp only [recordCalls, Nat.add_assoc]

end Meters

end MetricRelay.Exposition
