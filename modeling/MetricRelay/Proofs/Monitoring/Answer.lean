/-
Bad answers of the monitoring service.

A query that gets no answer, an answer whose status is no success and a body that is no JSON are
told as failed requests (`IsTold`).  A body that is JSON is decoded, and what is wrong with its
shape is told as something else, and so is a body that is nested too deep.

* `exists_body_of_not_counts` — an answer that does not count is told as a failed request;
* `isTold_iff` — a query yields a page or a failed request exactly if a body that counts is not
  nested too deep and, where it is JSON, has the shape of a listing.
-/
import MetricRelay.Monitoring.Client
import MetricRelay.Proofs.Monitoring.Shape

namespace MetricRelay.Monitoring

/-- A page, or a failed request. -/
def IsTold {α : Type} (x : Except Fault α) : Prop :=
  (∃ page, x = .ok page) ∨ ∃ path problem, x = .error (.api path problem)

/-- An answer that counts, with its body. -/
structure Reply.Counts (reply : Reply) (r : Request) (body : String) : Prop where
  exists_status : ∃ status, reply = .answer status body ∧ 200 ≤ status ∧ status ≤ 299
  isReadable : r.isReadable = true
  isEncodable : Text.isEncodable body.toList = true

/-- A body that is not nested too deep, and that has a shape if it is JSON. -/
structure BodyPermits (body : String) (S : Json → Prop) : Prop where
  not_tooDeep : readBody body ≠ .error .tooDeep
  shape : ∀ v, readBody body = .ok v → S v

section

variable {q : Query} {r : Request} {reply : Reply} {body : String}

theorem exists_body_of_not_counts (h : ∀ body, ¬reply.Counts r body) :
    ∃ problem, q.body r reply = .error (.api q.path problem) := by
  cases reply with
  | failure reason => exact ⟨_, rfl⟩
  | answer status body =>
    rw [Query.body]
    split
    next => exact ⟨_, rfl⟩
    next hreadable =>
      split
      next => exact ⟨_, rfl⟩
      next hstatus =>
        simp only [Bool.or_eq_true, Bool.not_eq_true', not_or, Bool.not_eq_false] at hreadable
        exact absurd ⟨⟨status, rfl, by omega⟩, hreadable.1, hreadable.2⟩ (h body)

theorem body_of_counts (h : reply.Counts r body) :
    q.body r reply = (readBody body).mapError fun
      | .tooDeep => .tooDeep
      | _ => q.unusable := by
  obtain ⟨⟨status, rfl, hlow, hhigh⟩, hreadable, hencodable⟩ := h
  rw [Query.body, hreadable, hencodable]
  exact (if_neg (by decide)).trans (if_neg (by omega))

theorem Reply.Counts.body_unique {other : String} (h : reply.Counts r body)
    (hother : reply.Counts r other) : other = body := by
  obtain ⟨⟨status, hreply, -⟩, -⟩ := h
  obtain ⟨⟨status', rfl, -⟩, -⟩ := hother
  cases hreply
  rfl

end

/-- What is decoded from a body is told exactly if the body has the shape that it needs. -/
theorem isTold_body_bind_iff {α : Type} {f : Json → Except Fault α} {S : Json → Prop}
    (hf : ∀ v, Decodes (f v) (S v)) (q : Query) (r : Request) (reply : Reply) :
    IsTold (q.body r reply >>= f) ↔ ∀ body, reply.Counts r body → BodyPermits body S := by
  by_cases hcounts : ∃ body, reply.Counts r body
  case neg =>
    have hnone : ∀ body, ¬reply.Counts r body := fun body h => hcounts ⟨body, h⟩
    obtain ⟨problem, hbody⟩ := exists_body_of_not_counts (q := q) hnone
    rw [hbody]
    exact iff_of_true (Or.inr ⟨_, _, rfl⟩) fun body h => absurd h (hnone body)
  obtain ⟨body, hbody⟩ := hcounts
  have hone : (∀ body, reply.Counts r body → BodyPermits body S) ↔ BodyPermits body S :=
    ⟨fun h => h body hbody, fun h other hother => hbody.body_unique hother ▸ h⟩
  rw [hone, body_of_counts hbody]
  cases hread : readBody body with
  | ok v =>
    change IsTold (f v) ↔ _
    have hshape : BodyPermits body S ↔ S v :=
      ⟨fun h => h.shape v hread, fun h => ⟨by simp [hread], fun w hw => by
        rw [hread] at hw
        exact Except.ok.inj hw ▸ h⟩⟩
    rw [hshape, ← (hf v).succeeds_iff]
    refine ⟨?_, Or.inl⟩
    rintro (h | ⟨path, problem, h⟩)
    · exact h
    · exact ((hf v).isShape _ h).elim
  | error fault =>
    have hnotJson : ∀ v, readBody body ≠ .ok v := by simp [hread]
    cases fault with
    | tooDeep =>
      refine iff_of_false ?_ fun h => h.not_tooDeep hread
      rintro (⟨page, h⟩ | ⟨path, problem, h⟩) <;> cases h
    | _ =>
      exact iff_of_true (Or.inr ⟨_, _, rfl⟩)
        ⟨by simp [hread], fun v hv => absurd hv (hnotJson v)⟩

/-- **How bad answers are told.**  Whatever comes back, a query for descriptors or time series
yields a page or a failed request exactly if a body that counts is not nested too deep and, where it
is JSON, is a listing. -/
theorem isTold_iff (q : Query) (r : Request) (reply : Reply) :
    (IsTold (q.descriptorPage r reply) ↔
      ∀ body, reply.Counts r body → BodyPermits body Json.IsDescriptorListing) ∧
    (IsTold (q.seriesPage r reply) ↔
      ∀ body, reply.Counts r body → BodyPermits body Json.IsSeriesListing) :=
  ⟨isTold_body_bind_iff Decodes.descriptorPage q r reply,
    isTold_body_bind_iff Decodes.seriesPage q r reply⟩

/-- A body that is an empty list is not told as a failed request. -/
theorem not_isTold :
    ¬∀ (q : Query) (r : Request) (reply : Reply),
      IsTold (q.descriptorPage r reply) ∧ IsTold (q.seriesPage r reply) := by
  intro h
  have hread : Query.descriptorPage ⟨"p", "f", .descriptors "f", .text ""⟩
      ⟨"monitoring.googleapis.com", "/v3/projects/p/metricDescriptors", [("filter", "f")],
        "application/json", none, true⟩ (.answer 200 "[]") = .error .notObject := by
    rfl
  obtain ⟨page, h⟩ | ⟨path, problem, h⟩ := (h _ _ _).1
  · rw [h] at hread
    cases hread
  · rw [h] at hread
    cases hread

end MetricRelay.Monitoring
