import NetLookup.Main
import NetLookup.Proofs.CommandLine.Shown
import NetLookup.Proofs.CommandLine.Words
import NetLookup.Proofs.Session

/-! # Commands and their operations

A command does to the remote side what its operation does with an empty cache, with the settings that the
command line and the environment give. It ends as the operation ends: what the operation answers or how it
fails is all that its output and its code tell of. -/

namespace NetLookup.CommandLine

/-! ## Settings -/

def firstGiven (texts : List (Option String)) : Option String := texts.findSome? nonEmpty

namespace Overrides

/-- What the command line says, or else the environment. -/
def settings (o : Overrides) (env : String → Option String) : Settings where
  region := firstGiven [o.region, env "AWS_REGION", env "AWS_DEFAULT_REGION"]
  vpcId := firstGiven [o.vpcId, env "AWS_VPC_ID"]
  clusterName := (firstGiven [o.cluster, env "ALBNET_CLUSTER_NAME"]).getD ""
  endpoint := (firstGiven [env "ALBNET_IMDS_ENDPOINT"]).getD MetadataService.defaultEndpoint

end Overrides

/-! ## Answers -/

namespace Command

inductive Fits : Command → Answer → Prop
  | vpcId (id : Json) : Fits .vpcId (.value id)
  | subnets (scheme : Lookup.Scheme) (json : Bool) (ids : List Json) :
    Fits (.subnets scheme json) (.value (.arr ids))
  | subnetsByName (names : List String) (json : Bool) (ids : List Json) :
    Fits (.subnetsByName names json) (.value (.arr ids))
  | securityGroups (names : List String) (json : Bool) (ids : List Json) :
    Fits (.securityGroups names json) (.value (.arr ids))
  | nodeHealth (id : String) (healthy : Bool) : Fits (.nodeHealth id) (.value (.bool healthy))
  | status : Fits .status .done

theorem exists_of_map_run {α β : Type} {w : Work α} {f : α → β} {st : State} {b : β}
    (h : ((do return f (← w) : Work β).run.run st).1 = .ok b) : ∃ a, b = f a := by
  rw [Work.bind_run] at h
  generalize w.run.run st = r at h
  rcases r with ⟨e | a, t⟩
  · cases h
  · exact ⟨a, (Except.ok.inj h).symm⟩

theorem nodeHealthy_answer {s : Settings} {id : String} {m : Moment} {a : Answer}
    (h : ((Operation.nodeHealthy id).outcome s m .empty).1 = .ok a) :
    ∃ healthy, a = .value (.bool healthy) := by
  rw [Operation.outcome_eq m .empty rfl] at h
  obtain ⟨verdict, hverdict, rfl⟩ := ok_of_map h
  have hnone : (m.state .empty).sight.live ((Lookup.verdicts s).slot (.text id)) = none := rfl
  rw [View.orAskEffect, hnone] at hverdict
  obtain ⟨⟨verdict, given⟩, hasked, rfl⟩ := ok_of_map hverdict
  obtain ⟨healthy, rfl⟩ := Lookup.askHealth_verdict hasked
  exact ⟨healthy, rfl⟩

theorem fits {c : Command} {s : Settings} {m : Moment} {a : Answer}
    (h : (c.operation.outcome s m .empty).1 = .ok a) : c.Fits a := by
  cases c with
  | vpcId =>
    obtain ⟨id, rfl⟩ := exists_of_map_run h
    exact .vpcId id
  | subnets scheme json =>
    obtain ⟨ids, rfl⟩ := exists_of_map_run h
    exact .subnets scheme json ids
  | subnetsByName names json =>
    obtain ⟨ids, rfl⟩ := exists_of_map_run h
    exact .subnetsByName names json ids
  | securityGroups names json =>
    obtain ⟨ids, rfl⟩ := exists_of_map_run h
    exact .securityGroups names json ids
  | nodeHealth id =>
    obtain ⟨healthy, rfl⟩ := nodeHealthy_answer h
    exact .nodeHealth id healthy
  | status =>
    obtain ⟨_, rfl⟩ := exists_of_map_run (f := fun _ => Answer.done) h
    exact .status

/-! ## What is printed -/

/-- The ids among an answer that go through markup. Those of JSON do not. -/
def printedIds : Command → Answer → List Json
  | .vpcId, .value id => [id]
  | c, .value (.arr ids) => if c.json then [] else ids
  | _, _ => []

def PlainId (id : Json) : Prop := ∀ s, id = .str s → '[' ∉ s.toList

structure Returned (c : Command) (a : Answer) (exit : Exit) : Prop where
  crash : exit.crash = none
  success : (∀ id, c = .nodeHealth id → a = .value (.bool true)) → exit.code = 0
  verdict : ∀ id, c = .nodeHealth id → a = .value (.bool true) ∨ a = .value (.bool false)
  unhealthy : ∀ id, c = .nodeHealth id → a = .value (.bool false) → exit.code = 2
  /-- With the flag for JSON, the ids and nothing else. -/
  ids : c.json = true → ∃ ids, a = .value (.arr ids) ∧ exit.output = Json.encode .ascii (.arr ids) ++ "\n"

end Command

namespace Exit

theorem ofLines_one (code : Nat) (line : String) : ofLines code [.ok line] = { code, output := line ++ "\n" } := by
  unfold ofLines printed printed
  simp

theorem ofLines_ok (code : Nat) {lines : List (Except Failure String)} (h : ∀ l ∈ lines, ∃ line, l = .ok line) :
    ∃ output, ofLines code lines = { code, output } := by
  have hprinted : ∃ output, printed lines = (output, none) := by
    induction lines with
    | nil => exact ⟨"", rfl⟩
    | cons l lines ih =>
      obtain ⟨line, rfl⟩ := h l List.mem_cons_self
      obtain ⟨rest, hrest⟩ := ih fun l hl => h l (List.mem_cons_of_mem _ hl)
      refine ⟨line ++ "\n" ++ rest, ?_⟩
      rw [printed, hrest]
  obtain ⟨output, hprinted⟩ := hprinted
  refine ⟨output, ?_⟩
  rw [ofLines, hprinted]

end Exit

theorem mark_plain {mark : String} (h : mark = "✓" ∨ mark = "✗") :
    ∀ c ∈ (mark ++ " ").toList, c ≠ '[' ∧ c ≠ '\\' := by
  rcases h with rfl | rfl
  · simp
  · simp

theorem success_ok (text : String) : ∃ line, success text = .ok line :=
  marked_ok isName_green (mark_plain (.inl rfl)) text

theorem problem_ok (text : String) : ∃ line, problem text = .ok line :=
  marked_ok isName_red (mark_plain (.inr rfl)) text

theorem shownValue_ok {id : Json} (h : Command.PlainId id) : ∃ line, shownValue id = .ok line := by
  cases id with
  | str s =>
    rw [shownValue, shown, Markup.show?_of_no_bracket (h s rfl)]
    exact ⟨_, rfl⟩
  | _ => exact ⟨_, rfl⟩

namespace Command

theorem printIds_ok (json : Bool) {ids : List Json} (h : json = false → ∀ id ∈ ids, PlainId id) :
    ∃ output, printIds json ids = { code := 0, output }
      ∧ (json = true → output = Json.encode .ascii (.arr ids) ++ "\n") := by
  unfold printIds
  cases json with
  | true => exact ⟨_, Exit.ofLines_one 0 _, fun _ => rfl⟩
  | false =>
    have hlines : ∀ l ∈ (if ids.isEmpty then [shown "[dim](none)[/dim]"] else ids.map shownValue),
        ∃ line, l = .ok line := by
      intro l hl
      split at hl
      · obtain rfl := List.mem_singleton.mp hl
        exact ⟨_, shown_none⟩
      · obtain ⟨id, hid, rfl⟩ := List.mem_map.mp hl
        exact shownValue_ok (h rfl id hid)
    obtain ⟨output, hexit⟩ := Exit.ofLines_ok 0 hlines
    exact ⟨output, hexit, nofun⟩

theorem Returned.of_success {c : Command} {a : Answer} {output : String}
    (hhealth : ∀ id, c = .nodeHealth id → a = .value (.bool true))
    (hids : c.json = true → ∃ ids, a = .value (.arr ids) ∧ output = Json.encode .ascii (.arr ids) ++ "\n") :
    c.Returned a { code := 0, output } where
  crash := rfl
  success _ := rfl
  verdict id hc := .inl (hhealth id hc)
  unhealthy := by
    rintro id hc rfl
    cases hhealth id hc
  ids := hids

theorem Returned.of_ids {c : Command} {ids : List Json} (hhealth : ∀ id, c ≠ .nodeHealth id)
    (hplain : c.json = false → ∀ id ∈ ids, PlainId id) :
    c.Returned (.value (.arr ids)) (printIds c.json ids) := by
  obtain ⟨output, hexit, hjson⟩ := printIds_ok c.json hplain
  rw [hexit]
  exact .of_success (fun id hc => absurd hc (hhealth id)) fun h => ⟨ids, rfl, hjson h⟩

theorem Fits.returned {c : Command} {a : Answer} (h : c.Fits a) (hplain : ∀ id ∈ c.printedIds a, PlainId id) :
    c.Returned a (c.printAnswer a) := by
  -- One case for each command with an answer that fits it.
  cases h with
  | vpcId id =>
    obtain ⟨line, hline⟩ := shownValue_ok (hplain id List.mem_cons_self)
    rw [printAnswer, hline, Exit.ofLines_one]
    exact .of_success nofun nofun
  | subnets scheme json ids =>
    refine Returned.of_ids (c := .subnets scheme json) nofun ?_
    rintro rfl
    exact hplain
  | subnetsByName names json ids =>
    refine Returned.of_ids (c := .subnetsByName names json) nofun ?_
    rintro rfl
    exact hplain
  | securityGroups names json ids =>
    refine Returned.of_ids (c := .securityGroups names json) nofun ?_
    rintro rfl
    exact hplain
  | nodeHealth id healthy =>
    cases healthy with
    | true =>
      obtain ⟨line, hline⟩ := success_ok (id ++ " healthy")
      change Returned _ _ (.ofLines 0 [CommandLine.success (id ++ " healthy")])
      rw [hline, Exit.ofLines_one]
      exact .of_success (fun _ _ => rfl) nofun
    | false =>
      obtain ⟨line, hline⟩ := problem_ok (id ++ " not healthy")
      change Returned _ _ (.ofLines unhealthyCode [problem (id ++ " not healthy")])
      rw [hline, Exit.ofLines_one]
      refine ⟨rfl, fun hhealth => ?_, fun _ _ => .inr rfl, fun _ _ _ => rfl, nofun⟩
      cases hhealth id rfl
  | status =>
    obtain ⟨line, hline⟩ := success_ok "EC2 API reachable"
    change Returned _ _ (.ofLines 0 [CommandLine.success "EC2 API reachable"])
    rw [hline, Exit.ofLines_one]
    exact .of_success nofun nofun

end Command

end NetLookup.CommandLine
