/-
How a listing goes.

A listing reports the types on a page that were on no page before, and then asks for the next page.
It ends early when a page does not come or cannot be reported, and else offers all descriptors to
the cache (`Lists`).  What the units of a listing are follows from that alone:

* `lists_listEvents` — the events of a listing are such a course;
* `Lists.nodup`, `Lists.fresh` — no type has two units, and none that was met before has one;
* `Lists.units_subset` — only descriptors on the pages have units;
* `Lists.forall_mem` — what kinds of events there are;
* `Lists.isUnder`, `Lists.mem_units` — if the source honours the filter and there is a window, all
  types on the pages are under the prefix, and each of them that was not met before has a unit.
-/
import MetricRelay.Proofs.Scrape.Trace
import MetricRelay.Proofs.Text.Order

namespace MetricRelay.Scrape

open Monitoring

/-- The types of a page that were on no page before can be reported. -/
structure Reports (src : Source) (p : Plan) (asked : History) (q : Query) (seen : List Json.Key)
    (page : DescriptorPage) (entries : List (Json.Key × Descriptor)) (us : List Descriptor)
    (within : Window) : Prop where
  hpage : src.descriptors asked q = .ok page
  hentries : keyed page.descriptors = .ok entries
  hunits : unique ((entries.filter fun e => !seen.contains e.1).map Prod.snd) = .ok us
  hwithin : (src.now (q :: asked)).bind (window p.collection) = .ok within

/-- The course of a listing that starts with a query, after the pages before have brought some types
and descriptors. -/
inductive Lists (src : Source) (p : Plan) (stem : String) :
    Query → List Json.Key → List Descriptor → List Event → Prop
  /-- No more pages are followed. -/
  | stopped (q : Query) (seen : List Json.Key) (listed : List Descriptor) :
      Lists src p stem q seen listed []
  /-- The page does not come, or its types cannot be reported. -/
  | ended {asked : History} {q : Query} {seen : List Json.Key} {listed : List Descriptor}
      {answer : Except Fault DescriptorPage} (hanswer : src.descriptors asked q = answer)
      (h : ∀ page entries us within, ¬Reports src p asked q seen page entries us within) :
      Lists src p stem q seen listed [.page q answer]
  /-- The page is the last one. -/
  | last {asked : History} {q : Query} {seen : List Json.Key} {listed us : List Descriptor}
      {page : DescriptorPage} {entries : List (Json.Key × Descriptor)} {within : Window}
      (h : Reports src p asked q seen page entries us within) :
      Lists src p stem q seen listed
        (.page q (.ok page) ::
          (us.map (.unit within) ++ [.stored stem (listed ++ page.descriptors)]))
  /-- There is a next page. -/
  | next {asked : History} {q : Query} {seen : List Json.Key} {listed us : List Descriptor}
      {page : DescriptorPage} {entries : List (Json.Key × Descriptor)} {within : Window}
        {token : Json}
      {es : List Event} (h : Reports src p asked q seen page entries us within)
      (hs : Lists src p stem (q.forPage token) (seen ++ Assoc.keys entries)
        (listed ++ page.descriptors) es) :
      Lists src p stem q seen listed (.page q (.ok page) :: (us.map (.unit within) ++ es))

variable {src : Source} {p : Plan} {stem : String}

/-- A report either has its units, all within one window, or does nothing. -/
theorem report_cases (src : Source) (p : Plan) (ds : List Descriptor) (w : Work) :
    (∃ us within, unique ds = .ok us ∧ (src.now w.asked).bind (window p.collection) = .ok within ∧
      reportEvents src p ds w = us.map (.unit within) ∧ ∃ fault v,
      report src p ds w = (.ok fault, v)) ∨
    ((∀ us within, unique ds = .ok us → (src.now w.asked).bind (window p.collection) ≠ .ok within) ∧
      reportEvents src p ds w = [] ∧ ∃ fault, report src p ds w = (.error fault, w)) := by
  rw [reportEvents, report]
  cases unique ds with
  | error fault => exact Or.inr ⟨fun _ _ h => (by cases h), rfl, fault, rfl⟩
  | ok us =>
    cases (src.now w.asked).bind (window p.collection) with
    | error fault => exact Or.inr ⟨fun _ _ _ h => (by cases h), rfl, fault, rfl⟩
    | ok within => exact Or.inl ⟨us, within, rfl, rfl, rfl, _, _, rfl⟩

/-- The events of a listing are the course of one. -/
theorem lists_listEvents (limit : Nat) (q : Query) (l : Listing) (w : Work) :
    Lists src p stem q l.seen l.listed (listEvents src p stem limit q l w) := by
  -- on the bound of the pages, for every query and everything that the pages so far have brought
  induction limit generalizing q l w with
  | zero => exact .stopped q l.seen l.listed
  | succ limit ih =>
    rw [listEvents]
    cases hpage : src.descriptors w.asked q with
    | error fault =>
      exact .ended hpage fun _ _ _ _ h => by cases hpage.symm.trans h.hpage
    | ok page =>
      dsimp only
      cases hentries : keyed page.descriptors with
      | error fault =>
        refine .ended hpage fun page' _ _ _ h => ?_
        obtain rfl : page = page' := Except.ok.inj (hpage.symm.trans h.hpage)
        cases hentries.symm.trans h.hentries
      | ok entries =>
        dsimp only
        rcases report_cases src p ((entries.filter fun e => !l.seen.contains e.1).map Prod.snd)
          (w.ask q) with ⟨us, within, hus, hwithin, hevents, fault, v, hreport⟩ |
            ⟨hnone, hevents, fault, hreport⟩
        · rw [hevents, hreport]
          have h : Reports src p w.asked q l.seen page entries us within :=
            ⟨hpage, hentries, hus, hwithin⟩
          dsimp only
          cases following? page.nextToken with
          | none => exact .last h
          | some token =>
            have hrest := ih (q.forPage token)
              { seen := l.seen ++ entries.map Prod.fst, listed := l.listed ++ page.descriptors
                first := l.first.orElse fun _ => fault } v
            exact .next h hrest
        · rw [hevents, hreport]
          refine .ended hpage fun page' entries' us within h => ?_
          obtain rfl : page = page' := Except.ok.inj (hpage.symm.trans h.hpage)
          obtain rfl : entries = entries' := Except.ok.inj (hentries.symm.trans h.hentries)
          exact hnone us within h.hunits h.hwithin

/-! ### The units of a page -/

@[simp] theorem units_map_unit (within : Window) (us : List Descriptor) :
    units (us.map (.unit within)) = us := by
  induction us with
  | nil => rfl
  | cons u us ih => exact congrArg (u :: ·) ih

@[simp] theorem received_map_unit (within : Window) (us : List Descriptor) :
    received (us.map (.unit within)) = [] := by
  induction us with
  | nil => rfl
  | cons u us ih => exact ih

theorem stored_not_mem_units (within : Window) (us : List Descriptor) (other : String)
    (ds : List Descriptor) : Event.stored other ds ∉ us.map (Event.unit within) := by
  intro hmem
  obtain ⟨u, -, hu⟩ := List.mem_map.mp hmem
  cases hu

section

variable {asked : History} {q : Query} {seen : List Json.Key} {page : DescriptorPage}
  {entries : List (Json.Key × Descriptor)} {us : List Descriptor} {within : Window}

/-- What is reported of a page are its named descriptors that are new, each type once. -/
theorem Reports.units_eq (h : Reports src p asked q seen page entries us within) :
    IsNamed entries ∧ page.descriptors = entries.map Prod.snd ∧
      us = (Assoc.ofEntries (entries.filter fun e => !seen.contains e.1)).map Prod.snd := by
  obtain ⟨hds, hnamed⟩ := keyed_eq_ok_iff.mp h.hentries
  obtain ⟨fresh, hfresh, rfl⟩ := unique_eq_ok_iff.mp h.hunits
  rw [keyed_eq_ok_iff.mpr ⟨rfl, hnamed.filter _⟩] at hfresh
  cases hfresh
  exact ⟨hnamed, hds.symm, rfl⟩

theorem Reports.typeKeys (h : Reports src p asked q seen page entries us within) :
    typeKeys page.descriptors = Assoc.keys entries := by
  obtain ⟨hds, hnamed⟩ := keyed_eq_ok_iff.mp h.hentries
  rw [← hds, hnamed.typeKeys]

theorem Reports.mem_of_mem_units (h : Reports src p asked q seen page entries us within)
    {d : Descriptor} (hd : d ∈ us) : d ∈ page.descriptors := by
  obtain ⟨hds, -⟩ := keyed_eq_ok_iff.mp h.hentries
  obtain ⟨e, he, rfl⟩ := List.mem_map.mp (mem_of_mem_unique h.hunits hd)
  rw [← hds]
  exact List.mem_map_of_mem (List.mem_of_mem_filter he)

/-- The units of a page are for the types on it that were not met before. -/
theorem Reports.mem_units (h : Reports src p asked q seen page entries us within)
    {type : Json.Key} :
    type ∈ Scrape.typeKeys us ↔ type ∈ Scrape.typeKeys page.descriptors ∧ type ∉ seen := by
  obtain ⟨-, hnamed⟩ := keyed_eq_ok_iff.mp h.hentries
  rw [mem_typeKeys_of_unique h.hunits, (hnamed.filter _).typeKeys, h.typeKeys, Assoc.keys,
    Assoc.keys]
  constructor
  · intro hmem
    obtain ⟨e, he, rfl⟩ := List.mem_map.mp hmem
    obtain ⟨he, hseen⟩ := List.mem_filter.mp he
    exact ⟨List.mem_map_of_mem he, by simpa using hseen⟩
  · rintro ⟨hmem, hseen⟩
    obtain ⟨e, he, rfl⟩ := List.mem_map.mp hmem
    exact List.mem_map_of_mem (List.mem_filter.mpr ⟨he, by simpa using hseen⟩)

end

/-! ### The units of a listing -/

section

variable {q : Query} {seen : List Json.Key} {listed : List Descriptor} {es : List Event}

theorem units_page (q : Query) (answer : Except Fault DescriptorPage) (within : Window)
    (us : List Descriptor) (es : List Event) :
    units (.page q answer :: (us.map (.unit within) ++ es)) = us ++ units es := by
  show units (us.map (.unit within) ++ es) = us ++ units es
  rw [units_append, units_map_unit]

theorem received_page (q : Query) (page : DescriptorPage) (within : Window) (us : List Descriptor)
    (es : List Event) :
    received (.page q (.ok page) :: (us.map (.unit within) ++ es))
      = page.descriptors ++ received es := by
  show page.descriptors ++ received (us.map (.unit within) ++ es) = page.descriptors ++ received es
  rw [received_append, received_map_unit, List.nil_append]

/-- Only descriptors on the pages have units. -/
theorem Lists.units_subset (h : Lists src p stem q seen listed es) : units es ⊆ received es := by
  induction h with
  | stopped => exact List.Subset.refl _
  | ended => exact List.nil_subset _
  | last h =>
    rw [units_page, received_page]
    exact List.append_subset.mpr ⟨fun d hd => List.mem_append_left _ (h.mem_of_mem_units hd),
      List.nil_subset _⟩
  | next h _ ih =>
    rw [units_page, received_page]
    exact List.append_subset.mpr ⟨fun d hd => List.mem_append_left _ (h.mem_of_mem_units hd),
      fun d hd => List.mem_append_right _ (ih hd)⟩

/-- Types that were met before have no units. -/
theorem Lists.fresh (h : Lists src p stem q seen listed es) :
    ∀ type ∈ typeKeys (units es), type ∉ seen := by
  induction h with
  | stopped => exact fun type h => absurd h List.not_mem_nil
  | ended => exact fun type h => absurd h List.not_mem_nil
  | last h =>
    intro type htype
    rw [units_page, typeKeys_append] at htype
    rcases List.mem_append.mp htype with htype | htype
    · exact (h.mem_units.mp htype).2
    · exact absurd htype List.not_mem_nil
  | next h _ ih =>
    intro type htype
    rw [units_page, typeKeys_append] at htype
    rcases List.mem_append.mp htype with htype | htype
    · exact (h.mem_units.mp htype).2
    · exact fun hseen => ih type htype (List.mem_append_left _ hseen)

/-- No type has two units. -/
theorem Lists.nodup (h : Lists src p stem q seen listed es) : (typeKeys (units es)).Nodup := by
  induction h with
  | stopped => exact List.nodup_nil
  | ended => exact List.nodup_nil
  | last h =>
    rw [units_page, typeKeys_append]
    exact List.nodup_append.mpr ⟨nodup_typeKeys_of_unique h.hunits, List.nodup_nil,
      fun _ _ _ hb => absurd hb List.not_mem_nil⟩
  | next h hs ih =>
    rw [units_page, typeKeys_append]
    refine List.nodup_append.mpr ⟨nodup_typeKeys_of_unique h.hunits, ih,
      fun type htype other hother => ?_⟩
    -- the types of this page count as met on the next ones
    rintro rfl
    refine hs.fresh type hother (List.mem_append_right _ ?_)
    rw [← h.typeKeys]
    exact (h.mem_units.mp htype).1

end

/-- What holds of pages of the same subject, of units within a window that there is, and of what is
offered for the prefix holds of all events of a listing. -/
theorem Lists.forall_mem {q : Query} {seen : List Json.Key} {listed : List Descriptor}
    {es : List Event} {P : Event → Prop} (h : Lists src p stem q seen listed es)
    (hpage : ∀ r answer, r.subject = q.subject → P (.page r answer))
    (hunit : ∀ asked within d, (src.now asked).bind (window p.collection) = .ok within →
      P (.unit within d))
    (hstored : ∀ ds, P (.stored stem ds)) : ∀ e ∈ es, P e := by
  have hunits : ∀ {asked : History} {within : Window},
      (src.now asked).bind (window p.collection) = .ok within → ∀ us : List Descriptor,
      ∀ e ∈ us.map (Event.unit within), P e :=
    fun hwithin _ => List.forall_mem_map.mpr fun d _ => hunit _ _ d hwithin
  induction h with
  | stopped => exact fun e he => absurd he List.not_mem_nil
  | ended => exact List.forall_mem_singleton.mpr (hpage _ _ rfl)
  | last h =>
    exact List.forall_mem_cons.mpr ⟨hpage _ _ rfl, List.forall_mem_append.mpr
      ⟨hunits h.hwithin _, List.forall_mem_singleton.mpr (hstored _)⟩⟩
  | next h _ ih =>
    exact List.forall_mem_cons.mpr ⟨hpage _ _ rfl, List.forall_mem_append.mpr
      ⟨hunits h.hwithin _, ih hpage⟩⟩

/-! ### Listings that honour the filter -/

/-- The type of a descriptor is a text that starts with a prefix. -/
def IsUnder (stem : String) (d : Descriptor) : Prop :=
  ∃ s, d.type = .text s ∧ Text.IsStem stem s

/-- Every descriptor that a source lists for a prefix is under it. -/
def Source.Honours (src : Source) (c : Settings.Collection) (stem : String) : Prop :=
  ∀ asked token page, src.descriptors asked ((descriptorQuery c stem).forPage token) = .ok page →
    ∀ d ∈ page.descriptors, IsUnder stem d

/-- The window that ends an offset before now exists, whenever that is. -/
def Source.HasWindow (src : Source) (c : Settings.Collection) : Prop :=
  ∀ asked, ∃ within, (src.now asked).bind (window c) = .ok within

theorem IsUnder.asKey {d : Descriptor} (h : IsUnder stem d) : ∃ type, d.type.asKey = .ok type := by
  obtain ⟨s, hs, -⟩ := h
  exact ⟨.text s, by rw [hs]; rfl⟩

/-- Types that can be names can be reported if there is a window. -/
theorem exists_unique_eq_ok {entries : List (Json.Key × Descriptor)} (h : IsNamed entries) :
    ∃ us, unique (entries.map Prod.snd) = .ok us :=
  ⟨_, unique_eq_ok_iff.mpr ⟨entries, keyed_eq_ok_iff.mpr ⟨rfl, h⟩, rfl⟩⟩

section

variable {seen : List Json.Key} {listed : List Descriptor} {es : List Event}

/-- All descriptors on the pages are under the prefix. -/
theorem Lists.isUnder (hsrc : src.Honours p.collection stem) {token : Json}
    (h : Lists src p stem ((descriptorQuery p.collection stem).forPage token) seen listed es) :
    ∀ d ∈ received es, IsUnder stem d := by
  generalize hq : (descriptorQuery p.collection stem).forPage token = q at h
  induction h generalizing token with
  | stopped => exact fun d h => absurd h List.not_mem_nil
  | @ended asked _ _ _ answer hanswer =>
    subst hq
    cases answer with
    | error fault => exact fun d h => absurd h List.not_mem_nil
    | ok page =>
      intro d hd
      exact hsrc asked token page hanswer d (by simpa [received] using hd)
  | @last asked _ _ _ _ page _ _ h =>
    subst hq
    rw [received_page]
    exact List.forall_mem_append.mpr ⟨hsrc asked token page h.hpage,
      fun d h => absurd h List.not_mem_nil⟩
  | @next asked _ _ _ _ page _ _ token' _ h _ ih =>
    subst hq
    rw [received_page]
    exact List.forall_mem_append.mpr ⟨hsrc asked token page h.hpage, ih rfl⟩

/-- Every type on the pages that was not met before has a unit. -/
theorem Lists.mem_units (hsrc : src.Honours p.collection stem)
    (hwindow : src.HasWindow p.collection) {token : Json}
    (h : Lists src p stem ((descriptorQuery p.collection stem).forPage token) seen listed es) :
    ∀ type ∈ typeKeys (received es), type ∉ seen → type ∈ typeKeys (units es) := by
  generalize hq : (descriptorQuery p.collection stem).forPage token = q at h
  induction h generalizing token with
  | stopped => exact fun type h => absurd h List.not_mem_nil
  | @ended asked q seen _ answer hanswer h =>
    subst hq
    cases answer with
    | error fault => exact fun type h => absurd h List.not_mem_nil
    | ok page =>
      -- a page under the prefix can be reported
      obtain ⟨entries, hentries⟩ := exists_keyed_eq_ok fun d hd =>
        (hsrc asked token page hanswer d hd).asKey
      obtain ⟨us, hus⟩ := exists_unique_eq_ok
        ((keyed_eq_ok_iff.mp hentries).2.filter fun e => !seen.contains e.1)
      obtain ⟨within, hwithin⟩ := hwindow _
      exact absurd ⟨hanswer, hentries, hus, hwithin⟩ (h page entries us within)
  | last h =>
    intro type htype hseen
    rw [received_page, typeKeys_append] at htype
    rw [units_page, typeKeys_append]
    rcases List.mem_append.mp htype with htype | htype
    · exact List.mem_append_left _ (h.mem_units.mpr ⟨htype, hseen⟩)
    · exact absurd htype List.not_mem_nil
  | @next _ _ seen _ _ page entries _ token' _ h _ ih =>
    subst hq
    intro type htype hseen
    rw [received_page, typeKeys_append] at htype
    rw [units_page, typeKeys_append]
    by_cases hpage : type ∈ typeKeys page.descriptors
    · exact List.mem_append_left _ (h.mem_units.mpr ⟨hpage, hseen⟩)
    · refine List.mem_append_right _ (ih rfl type ?_ fun hmet => ?_)
      · exact (List.mem_append.mp htype).resolve_left hpage
      · rw [h.typeKeys] at hpage
        exact (List.mem_append.mp hmet).elim hseen hpage

end

end MetricRelay.Scrape
