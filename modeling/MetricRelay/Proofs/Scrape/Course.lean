/-
The course of a listing, with all that it does.

`Course` follows a listing page by page from the state in which it begins to the one that it leaves,
together with what happens and what occurs.  There is one constructor for each way to end and one
for going on, so that what is shown for a single page holds of the whole listing by induction.

* `course_listPages` — a listing takes such a course;
* `Course.requests` — the pages it asks for are the requests among what occurs in it;
* `Course.halted` — nothing occurs after what halts it.
-/
import MetricRelay.Proofs.Scrape.Once
import MetricRelay.Proofs.Scrape.Occurrence

namespace MetricRelay.Scrape

open Monitoring

/-- The pages of descriptors that are asked for, with the answers. -/
def requests (es : List Event) : List (Query × Except Fault DescriptorPage) :=
  es.filterMap fun
    | .page q answer => some (q, answer)
    | _ => none

/-- The answer to a request for a page of descriptors. -/
def Occurrence.answer? : Occurrence → Option (Except Fault DescriptorPage)
  | .request answer => some answer
  | _ => none

/-- Whether a listing ends without its last page when this occurs: a page does not come, or cannot
be reported. -/
def Occurrence.halts : Occurrence → Bool
  | .request (.error _) | .outset (.error _) | .endless => true
  | .request (.ok _) | .outset (.ok _) | .unit _ _ => false

/-- Whether something occurs that halts a listing. -/
def halted (os : List Occurrence) : Bool :=
  os.any Occurrence.halts

/-- A listing from a query and the descriptors on the pages so far: what happens, what occurs, and
the states in which it begins and ends. -/
inductive Course (src : Source) (p : Plan) (stem : String) :
    Query → List Descriptor → Work → List Event → List Occurrence → Work → Prop
  /-- No more pages are followed. -/
  | stopped (q : Query) (listed : List Descriptor) (w : Work) :
      Course src p stem q listed w [] [.endless] w
  /-- The page does not come. -/
  | refused {q : Query} {listed : List Descriptor} {w : Work} {fault : Fault}
      (h : src.descriptors w.asked q = .error fault) :
      Course src p stem q listed w [.page q (.error fault)] [.request (.error fault)] (w.ask q)
  /-- The page cannot be reported. -/
  | raised {q : Query} {listed : List Descriptor} {w : Work} {page : DescriptorPage} (fault : Fault)
      (h : src.descriptors w.asked q = .ok page) :
      Course src p stem q listed w [.page q (.ok page)]
        [.request (.ok page), .outset (.error fault)] (w.ask q)
  /-- The page is the last one. -/
  | last {q : Query} {listed us : List Descriptor} {w v : Work} {page : DescriptorPage}
      {within : Window} (h : src.descriptors w.asked q = .ok page)
      (hwithin : (src.now (q :: w.asked)).bind (window p.collection) = .ok within)
      (hunits : (runUnits src p within us (w.ask q)).2 = v)
      (hnext : following? page.nextToken = none) :
      Course src p stem q listed w
        (.page q (.ok page) ::
          (us.map (.unit within) ++ [.stored stem (listed ++ page.descriptors)]))
        (.request (.ok page) :: .outset (.ok (us, within)) ::
          unitOccurrences src p within us (w.ask q))
        { v with cache := v.cache.store (src.clock v.asked) stem (listed ++ page.descriptors) }
  /-- There is a next page. -/
  | next {q : Query} {listed us : List Descriptor} {w v w' : Work} {page : DescriptorPage}
      {within : Window} {token : Json} {es : List Event} {os : List Occurrence}
      (h : src.descriptors w.asked q = .ok page)
      (hwithin : (src.now (q :: w.asked)).bind (window p.collection) = .ok within)
      (hunits : (runUnits src p within us (w.ask q)).2 = v)
      (hnext : following? page.nextToken = some token)
      (hrest : Course src p stem (q.forPage token) (listed ++ page.descriptors) v es os w') :
      Course src p stem q listed w (.page q (.ok page) :: (us.map (.unit within) ++ es))
        (.request (.ok page) :: .outset (.ok (us, within)) ::
          (unitOccurrences src p within us (w.ask q) ++ os)) w'

variable {src : Source} {p : Plan} {stem : String}

theorem reportEvents_eq (src : Source) (p : Plan) (ds : List Descriptor) (w : Work) :
    reportEvents src p ds w =
      match src.outset p ds w.asked with
      | .error _ => []
      | .ok (us, within) => us.map (.unit within) := by
  rw [reportEvents, Source.outset]
  cases unique ds with
  | error fault => rfl
  | ok us => cases (src.now w.asked).bind (window p.collection) <;> rfl

theorem window_of_outset {ds us : List Descriptor} {asked : History} {within : Window}
    (h : src.outset p ds asked = .ok (us, within)) :
    (src.now asked).bind (window p.collection) = .ok within := by
  obtain ⟨us', -, h⟩ := Except.bind_eq_ok_iff.mp h
  obtain ⟨within', hwithin, h⟩ := Except.bind_eq_ok_iff.mp h
  cases h
  exact hwithin

/-- A listing takes its course. -/
theorem course_listPages (limit : Nat) (q : Query) (l : Listing) (w : Work) :
    Course src p stem q l.listed w (listEvents src p stem limit q l w)
      (listOccurrences src p limit q l w) (listPages src p stem limit q l w).2 := by
  -- on the bound of the pages, for every query and everything that the pages so far have brought
  induction limit generalizing q l w with
  | zero => exact .stopped q l.listed w
  | succ limit ih =>
    rw [listEvents, listOccurrences, listPages]
    cases hpage : src.descriptors w.asked q with
    | error fault => cases fault <;> exact .refused hpage
    | ok page =>
      dsimp only
      cases hkeyed : keyed page.descriptors with
      | error fault => exact .raised fault hpage
      | ok entries =>
        dsimp only
        obtain ⟨fresh, hfresh⟩ : ∃ fresh,
          (entries.filter fun e => !l.seen.contains e.1).map Prod.snd = fresh := ⟨_, rfl⟩
        rw [hfresh, reportEvents_eq, reportOccurrences, report_eq]
        cases hout : src.outset p fresh (w.ask q).asked with
        | error fault => exact .raised fault hpage
        | ok out =>
          obtain ⟨us, within⟩ := out
          have hwithin := window_of_outset hout
          dsimp only
          cases hnext : following? page.nextToken with
          | none =>
            rw [List.append_nil]
            exact .last hpage hwithin rfl hnext
          | some token =>
            have hrest := ih (q.forPage token)
              { seen := l.seen ++ entries.map Prod.fst, listed := l.listed ++ page.descriptors
                first := l.first.orElse fun _ => (runUnits src p within us (w.ask q)).1 }
              (runUnits src p within us (w.ask q)).2
            exact .next hpage hwithin rfl hnext hrest

/-! ### What happens and what occurs -/

@[simp] theorem requests_map_unit (within : Window) (us : List Descriptor) :
    requests (us.map (.unit within)) = [] := by
  induction us with
  | nil => rfl
  | cons u us ih => exact ih

theorem requests_append (es fs : List Event) : requests (es ++ fs) = requests es ++ requests fs :=
  List.filterMap_append

theorem requests_page (q : Query) (answer : Except Fault DescriptorPage) (within : Window)
    (us : List Descriptor) (es : List Event) :
    requests (.page q answer :: (us.map (.unit within) ++ es)) = (q, answer) :: requests es := by
  show (q, answer) :: requests (us.map (.unit within) ++ es) = _
  rw [requests_append, requests_map_unit, List.nil_append]

theorem halted_unitOccurrences (src : Source) (p : Plan) (within : Window) (us : List Descriptor)
    (w : Work) : halted (unitOccurrences src p within us w) = false := by
  induction us generalizing w with
  | nil => rfl
  | cons d us ih => exact ih (runUnit src p within d w).2

theorem halted_append (os os' : List Occurrence) : halted (os ++ os') = (halted os || halted os') :=
  List.any_append

theorem halted_lastPage (src : Source) (p : Plan) (page : DescriptorPage) (us : List Descriptor)
    (within : Window) (w : Work) :
    halted (.request (.ok page) :: .outset (.ok (us, within)) ::
      unitOccurrences src p within us w) = false :=
  halted_unitOccurrences src p within us w

/-- A page that comes and is reported does not halt a listing, whatever becomes of its units. -/
theorem halted_page (src : Source) (p : Plan) (page : DescriptorPage) (us : List Descriptor)
    (within : Window) (w : Work) (os : List Occurrence) :
    halted (.request (.ok page) :: .outset (.ok (us, within)) ::
      (unitOccurrences src p within us w ++ os)) = halted os := by
  show halted (unitOccurrences src p within us w ++ os) = halted os
  rw [halted_append, halted_unitOccurrences, Bool.false_or]

theorem answers_unitOccurrences (src : Source) (p : Plan) (within : Window) (us : List Descriptor)
    (w : Work) : (unitOccurrences src p within us w).filterMap Occurrence.answer? = [] := by
  induction us generalizing w with
  | nil => rfl
  | cons d us ih => exact ih (runUnit src p within d w).2

/-- The pages a listing asks for are the requests among what occurs in it. -/
theorem Course.requests {q : Query} {listed : List Descriptor} {w w' : Work} {es : List Event}
    {os : List Occurrence} (h : Course src p stem q listed w es os w') :
    (Scrape.requests es).map Prod.snd = os.filterMap Occurrence.answer? := by
  induction h with
  | stopped => rfl
  | refused => rfl
  | raised => rfl
  | last h hwithin hunits hnext =>
    rw [requests_page, List.filterMap_cons, List.filterMap_cons]
    dsimp only [Occurrence.answer?]
    rw [answers_unitOccurrences]
    rfl
  | next h hwithin hunits hnext hrest ih =>
    rw [requests_page, List.filterMap_cons, List.filterMap_cons]
    dsimp only [Occurrence.answer?]
    rw [List.filterMap_append, answers_unitOccurrences, List.nil_append, List.map_cons, ih]

/-- Nothing occurs after what halts a listing. -/
theorem Course.halted {q : Query} {listed : List Descriptor} {w w' : Work} {es : List Event}
    {os : List Occurrence} (h : Course src p stem q listed w es os w') :
    Scrape.halted os.dropLast = false := by
  induction h with
  | stopped => rfl
  | refused => rfl
  | raised => rfl
  | @last q _ us w _ page within h hwithin hunits hnext =>
    have hpage := halted_lastPage src p page us within (w.ask q)
    rw [Scrape.halted, List.any_eq_false] at hpage ⊢
    exact fun o ho => hpage o ((List.dropLast_sublist _).subset ho)
  | @next _ _ us w _ _ page within _ _ os h hwithin hunits hnext hrest ih =>
    -- something occurs on the next page, so nothing of this one is the last
    have hne : os ≠ [] := by cases hrest <;> simp
    rw [List.dropLast_cons_of_ne_nil (by simp), List.dropLast_cons_of_ne_nil (by simp [hne]),
      List.dropLast_append_of_ne_nil hne, halted_page, ih]

end MetricRelay.Scrape
