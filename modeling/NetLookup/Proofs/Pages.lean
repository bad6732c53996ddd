import NetLookup.Proofs.Failures
import NetLookup.Proofs.Json.Parts

/-! # Pages

A listing that succeeds is the records of its pages, one page after the other; where one page ends and the
next begins makes no difference. A listing that breaks off has no records. -/

namespace NetLookup

/-! ## The records of pages -/

def Kind.page (key : String) : Kind := .record [(key, .list fun _ => True)]

theorem Kind.page_arr (key : String) (records : List Json) :
    (Kind.page key) (.obj [(key, .arr records)]) := by
  refine ⟨_, rfl, ?_⟩
  simp [Kind.list, List.lookup_cons]

namespace Listing

def recordsOf (key : String) (page : Json) : List Json := (page.fieldOr key (.arr [])).items

def recordsIn (key : String) (pages : List Json) : List Json := pages.flatMap (recordsOf key)

variable {key : String} {page : Json} {pages more : List Json}

theorem recordsIn_append : recordsIn key (pages ++ more) = recordsIn key pages ++ recordsIn key more :=
  List.flatMap_append

theorem records_eq (h : (Kind.page key) page) : records key page = .ok (recordsOf key page) := by
  have hlist : Kind.list (fun _ => True) (page.fieldOr key (.arr [])) :=
    Kind.record.fieldOr h (by simp) ⟨[], rfl, by simp⟩
  unfold records recordsOf
  rw [Kind.record.fieldD_eq h]
  exact Kind.list.elements_eq hlist

theorem collect_cons : collect key (page :: pages)
    = (records key page).bind fun first => (collect key pages).map (first ++ ·) := by
  unfold collect
  rw [List.mapM_cons]
  cases records key page with
  | error e => rfl
  | ok first => cases pages.mapM (records key) <;> rfl

theorem collect_eq (h : ∀ page ∈ pages, (Kind.page key) page) :
    collect key pages = .ok (recordsIn key pages) := by
  -- The loop takes one page after the other, and so does the induction.
  induction pages with
  | nil => rfl
  | cons page pages ih =>
    obtain ⟨hpage, hpages⟩ := List.forall_mem_cons.1 h
    rw [collect_cons, records_eq hpage, ih hpages]
    rfl

theorem outcome_atPage (h : ∀ page ∈ pages, (Kind.page key) page) (n : Nat) (e : Failure) :
    outcome key pages (some (.atPage n e)) = .error e := by
  have htake : ∀ page ∈ pages.take n, (Kind.page key) page := by
    intro page hpage
    exact h page (List.mem_of_mem_take hpage)
  -- The pages before it are read, and what they hold is dropped.
  show (collect key (pages.take n)).bind (fun _ => .error e) = .error e
  rw [collect_eq htake]
  rfl

end Listing

/-! ## Remote sides that differ in one listing -/

/-- The remote side as it is, but that one listing has these pages and breaks off so. -/
def Remote.showing (r : Remote) (api : Api) (operation : String) (pages : List Json)
    (outage : Option Outage) : Remote :=
  { r with
    pages := fun a o => if a = api ∧ o = operation then pages else r.pages a o
    outage := fun a o => if a = api ∧ o = operation then outage else r.outage a o }

namespace Remote

variable (r : Remote) (api : Api) (operation : String) {key : String} {pages : List Json}

theorem showing_pages (outage : Option Outage) :
    (r.showing api operation pages outage).pages api operation = pages := by
  simp [showing]

theorem showing_outage (outage : Option Outage) :
    (r.showing api operation pages outage).outage api operation = outage := by
  simp [showing]

theorem listed_showing_none (h : ∀ page ∈ pages, (Kind.page key) page) :
    (r.showing api operation pages none).listed api operation key
      = .ok (Listing.recordsIn key pages) := by
  unfold listed
  rw [showing_pages, showing_outage]
  exact Listing.collect_eq h

theorem listed_showing_some (h : ∀ page ∈ pages, (Kind.page key) page) (o : Outage) :
    (r.showing api operation pages (some o)).listed api operation key = .error o.failure := by
  unfold listed
  rw [showing_pages, showing_outage]
  cases o with
  | beforeStart e => rfl
  | atPage n e => exact Listing.outcome_atPage h n e

theorem firstPage_showing (outage : Option Outage) (params : Fields) :
    firstPage (r.showing api operation pages outage) api operation params = match outage with
      | some (.beforeStart _) => []
      | _ => [.page api operation params] := by
  unfold firstPage starts
  rw [showing_outage]
  rcases outage with _ | e | ⟨n, e⟩
  · rfl
  · rfl
  · rfl

end Remote

/-! ## Whole listings -/

namespace Work

variable (api : Api) (service : Json) (operation key : String) {params : Fields} {pages : List Json}

/-- A listing is all records of all pages in order, or fails under the name of its request, which is sent at
most once. What it comes to depends on the records and the failure, not on the pages. Of the parameters, none
can have the name that the listing has for itself. -/
theorem listAll_whole (h : Listing.anySaid [Listing.ownName] params = false) (s : State)
    (hpages : ∀ page ∈ pages, (Kind.page key) page) :
    let shown pages outage := { s with remote := s.remote.showing api operation pages outage }
    let run pages outage := (listAll api service operation key params).run.run (shown pages outage)
    let request := Event.page api operation params
    let failed (e : Failure) : Except Failure (List Json) := .error (.transport
      ⟨service, .str operation, e.codeAndMessage.1, e.codeAndMessage.2, params⟩ (some e))
    run pages none = (.ok (Listing.recordsIn key pages), (shown pages none).adding [request]) ∧
      (∀ e, e.isRemote = true →
        run pages (some (.beforeStart e)) = (failed e, shown pages (some (.beforeStart e))) ∧
          ∀ n, run pages (some (.atPage n e))
            = (failed e, (shown pages (some (.atPage n e))).adding [request])) ∧
      ∀ others, (∀ page ∈ others, (Kind.page key) page) →
        (Listing.recordsIn key others = Listing.recordsIn key pages →
          (run others none).1 = (run pages none).1) ∧
        (∀ o o', o.failure.isRemote = true → o'.failure = o.failure →
          (run others (some o')).1 = (run pages (some o)).1) ∧
        (run (pages ++ others) none).1 = (do
          let first ← (run pages none).1
          let rest ← (run others none).1
          return first ++ rest) := by
  intro shown run request failed
  have hrun (pages : List Json) (outage : Option Outage) : run pages outage =
      (((s.remote.showing api operation pages outage).listed api operation key).mapError
          (·.named service (.str operation) params),
        (shown pages outage).adding
          (firstPage (s.remote.showing api operation pages outage) api operation params)) :=
    listAll_run api service operation key h (shown pages outage)
  -- All that follows is about these two results, which no longer mention pages one by one.
  have hwhole {pages : List Json} (hpages : ∀ page ∈ pages, (Kind.page key) page) :
      run pages none = (.ok (Listing.recordsIn key pages), (shown pages none).adding [request]) := by
    rw [hrun, Remote.listed_showing_none _ _ _ hpages, Remote.firstPage_showing]
    rfl
  have hfailed {pages : List Json} (hpages : ∀ page ∈ pages, (Kind.page key) page) (o : Outage)
      (ho : o.failure.isRemote = true) : (run pages (some o)).1 = failed o.failure := by
    rw [hrun, Remote.listed_showing_some _ _ _ hpages, mapError_error, Failure.named_remote ho]
    rfl
  refine ⟨hwhole hpages, fun e he => ⟨?_, fun n => ?_⟩, fun others hothers => ⟨?_, ?_, ?_⟩⟩
  · refine Prod.ext (hfailed hpages (.beforeStart e) he) ?_
    rw [hrun, Remote.firstPage_showing]
    show State.adding _ [] = _
    rw [State.adding, List.append_nil]
  · refine Prod.ext (hfailed hpages (.atPage n e) he) ?_
    rw [hrun, Remote.firstPage_showing]
  · intro hsame
    rw [hwhole hothers, hwhole hpages, hsame]
  · intro o o' ho hsame
    rw [hfailed hpages o ho, hfailed hothers o' (hsame ▸ ho), hsame]
  · have hboth : ∀ page ∈ pages ++ others, (Kind.page key) page := by
      intro page hpage
      rcases List.mem_append.1 hpage with hpage | hpage
      · exact hpages page hpage
      · exact hothers page hpage
    rw [hwhole hboth, hwhole hpages, hwhole hothers, Listing.recordsIn_append]
    rfl

/-- Two records on pages of their own, with two empty pages between them, are the two records of one page.
Without credentials at the second page there are none. -/
theorem listAll_whole_twoRecords :
    let page records := Json.obj [("Subnets", .arr records)]
    let apart := [page [.str "a"], .obj [], page [], page [.str "b"]]
    let run pages outage := (listAll .ec2 mainService "describe_subnets" "Subnets" []).run.run
      { State.facing noSubnets with
        remote := noSubnets.showing .ec2 "describe_subnets" pages outage }
    (run apart none).1 = .ok [.str "a", .str "b"] ∧
      (run [page [.str "a", .str "b"]] none).1 = (run apart none).1 ∧
      (run apart (some (.atPage 1 (.sdk .noCredentials)))).1 = .error (.transport
        ⟨mainService, .str "describe_subnets", .str "NoCredentialsError", .null, []⟩
        (some (.sdk .noCredentials))) ∧
      (run apart (some (.atPage 4 (.sdk .noCredentials)))).1
        = (run [page []] (some (.beforeStart (.sdk .noCredentials)))).1 := by
  intro page apart run
  have hpage (records : List Json) : (Kind.page "Subnets") (page records) := Kind.page_arr _ records
  have hnone : (Kind.page "Subnets") (.obj []) := ⟨[], rfl, by simp⟩
  have hapart : ∀ p ∈ apart, (Kind.page "Subnets") p := by
    simp only [apart, List.forall_mem_cons, List.not_mem_nil, false_implies, implies_true, and_true]
    exact ⟨hpage _, hnone, hpage _, hpage _⟩
  have hone (records : List Json) : ∀ p ∈ [page records], (Kind.page "Subnets") p :=
    fun p hp => List.mem_singleton.1 hp ▸ hpage records
  have hparams : Listing.anySaid [Listing.ownName] [] = false := rfl
  obtain ⟨hwhole, hfailed, hothers⟩ := listAll_whole .ec2 mainService "describe_subnets" "Subnets" hparams
    (State.facing noSubnets) hapart
  refine ⟨congrArg Prod.fst hwhole, ?_, ?_, ?_⟩
  · exact (hothers _ (hone [.str "a", .str "b"])).1 rfl
  · exact congrArg Prod.fst ((hfailed (.sdk .noCredentials) rfl).2 1)
  · exact ((hothers _ (hone [])).2.1 (.atPage 4 (.sdk .noCredentials))
      (.beforeStart (.sdk .noCredentials)) rfl rfl).symm

end Work

end NetLookup
