import PresentRelay.Proofs.Relay.Outlook
import PresentRelay.Proofs.Site.Runs

/-!
# What observers see of the modes of a site

Users in the process and sessions ask for modes, and observers come and go at any moment.
`outlook_of_run` says that the mode, the interval and all queues always agree with the modes that
were granted: whoever observes has got every change since then, in order, and nothing else.
-/

set_option autoImplicit false

namespace PresentRelay

def changedModes (granted : List (Mode × Bool)) : List Mode :=
  (granted.filter Prod.snd).map Prod.fst

theorem changedModes_append (granted later : List (Mode × Bool)) :
    changedModes (granted ++ later) = changedModes granted ++ changedModes later := by
  simp [changedModes]

namespace Outlook

variable {before after : Outlook} {granted : Option (Mode × Bool)}

theorem Heeds.mode (heeds : before.Heeds granted after) :
    after.mode = (granted.toList.map Prod.fst).getLastD before.mode := by
  rcases granted with _ | ⟨mode, changed⟩
  · exact congrArg Outlook.mode heeds
  · rw [heeds.2, mode_configure]
    rfl

def Timed (outlook : Outlook) : Prop := outlook.interval = refreshInterval outlook.mode.refresh

theorem Heeds.timed (heeds : before.Heeds granted after) (timed : before.Timed) : after.Timed := by
  rcases granted with _ | ⟨mode, changed⟩
  · rwa [show after = before from heeds]
  · rw [heeds.2, configure]
    split
    · exact timed
    · rfl

theorem Heeds.cases (heeds : before.Heeds granted after) :
    (changedModes granted.toList = [] ∧ after = before) ∨
    ∃ mode, before.mode ≠ mode ∧ changedModes granted.toList = [mode] ∧
      after = ⟨mode, refreshInterval mode.refresh, before.observers.broadcast mode⟩ := by
  rcases granted with _ | ⟨mode, changed⟩
  · exact .inl ⟨rfl, heeds⟩
  · obtain ⟨rfl, rfl⟩ := heeds
    unfold configure
    by_cases same : before.mode = mode
    · rw [if_pos same]
      exact .inl ⟨by simp [changedModes, same], rfl⟩
    · rw [if_neg same]
      exact .inr ⟨mode, same, by simp [changedModes, Ne.symm same], rfl⟩

end Outlook

/-! ## One observer among others -/

namespace Observers

variable (observers : Observers) {observer : Nat}

theorem queue?_subscribe (there : observer < observers.queues.length) :
    observers.subscribe.1.queue? observer = observers.queue? observer := by
  rw [queue?, queue?, subscribe, List.getElem?_append_left there]

theorem queue?_subscribe_self :
    observers.subscribe.1.queue? observers.subscribe.2 = some [] := by
  simp [queue?, subscribe]

theorem queue?_unsubscribe (other : Nat) : (observers.unsubscribe other).queue? observer =
    if other = observer then none else observers.queue? observer := by
  rw [queue?, queue?, unsubscribe, List.getElem?_set]
  split
  · split <;> rfl
  · rfl

theorem queue?_broadcast (mode : Mode) : (observers.broadcast mode).queue? observer =
    (observers.queue? observer).map fun queue => queue ++ [mode] := by
  rw [queue?, queue?, broadcast, List.getElem?_map]
  cases observers.queues[observer]? <;> rfl

theorem queue?_take (other : Nat) : (observers.take other).1.queue? observer =
    if other = observer then (observers.queue? observer).map fun _ => []
    else observers.queue? observer := by
  cases held : observers.queue? other with
  | none =>
    simp only [take, held]
    split
    · next same => rw [← same, held, Option.map_none]
    · rfl
  | some queue =>
    have bound : other < observers.queues.length := by
      apply Nat.lt_of_not_le
      intro past
      simp [queue?, List.getElem?_eq_none past] at held
    simp only [take, held]
    rw [queue?, List.getElem?_set]
    by_cases same : other = observer
    · subst same
      rw [if_pos rfl, if_pos rfl, if_pos bound, held]
      rfl
    · rw [if_neg same, if_neg same, queue?]

end Observers

namespace Site

def outlook (site : Site) : Outlook := site.scene.relay.outlook

/-! ## Acts -/

/-- The mode that an act grants, and whether the answer says that it is another one. -/
def configured? (site : Site) : Act → Option (Mode × Bool)
  | .inside (.configure mode) =>
    match (site.scene.step (.configure mode)).2 with
    | .changed changed => some (mode, changed)
    | _ => none
  | .outside (.advance number) => site.hub.configured? number
  | _ => none

def taken (observer : Nat) (site : Site) : Act → List Mode
  | .inside (.changes other) =>
    if other = observer then
      match (site.scene.step (.changes other)).2 with
      | .modes (some modes) => modes
      | _ => []
    else []
  | _ => []

theorem allows_of_roleless (site : Site) {step : Scene.Step} (client : step.client? = none)
    (link : step.link? = none) : site.allows step = true := by
  simp only [allows, List.all_eq_true, Option.all_eq_true, Bool.not_eq_true',
    Session.owns, client, link]
  intro connection _ session _
  cases session.client <;> cases session.link <;> rfl

theorem outlook_inside (site : Site) {step : Scene.Step} (client : step.client? = none)
    (link : step.link? = none) :
    (site.act (.inside step)).outlook = (site.scene.step step).1.relay.outlook := by
  rw [act, if_pos (site.allows_of_roleless client link)]
  rfl

/-- What an act can do to the outlook of a site. -/
inductive Shows (site : Site) : Act → Outlook → Prop
  | subscribes : Shows site (.inside .subscribe)
      { site.outlook with observers := site.outlook.observers.subscribe.1 }
  | unsubscribes (observer : Nat) : Shows site (.inside (.unsubscribe observer))
      { site.outlook with observers := site.outlook.observers.unsubscribe observer }
  | takes (observer : Nat) : Shows site (.inside (.changes observer))
      { site.outlook with observers := (site.outlook.observers.take observer).1 }
  | heeds {act : Act} {after : Outlook} (stays : ∀ observer, act ≠ .inside (.unsubscribe observer))
      (leaves : ∀ observer, site.taken observer act = [])
      (heeds : site.outlook.Heeds (site.configured? act) after) : Shows site act after

theorem shows_act (site : Site) (act : Act) : site.Shows act (site.act act).outlook := by
  cases act with
  | inside step =>
    by_cases asks : ∃ mode, step = .configure mode
    · obtain ⟨mode, rfl⟩ := asks
      rw [site.outlook_inside rfl rfl]
      refine .heeds ?_ (fun _ => rfl) (site.scene.relay.heeds_configure mode)
      intro observer same
      cases same
    · cases observes : step.observes? with
      | none =>
        have same : (site.act (.inside step)).outlook = site.outlook := by
          rw [Site.act]
          split
          · exact site.scene.outlook_step (fun mode asked => asks ⟨mode, asked⟩) observes
          · rfl
        rw [same]
        refine .heeds ?_ ?_ ?_
        · intro observer same
          cases same
          cases observes
        · intro observer
          cases step <;> first | rfl | cases observes
        · cases step <;> first | rfl | exact absurd ⟨_, rfl⟩ asks
      | some change =>
        cases step with
        | subscribe =>
          rw [site.outlook_inside rfl rfl]
          exact .subscribes
        | unsubscribe observer =>
          rw [site.outlook_inside rfl rfl]
          exact .unsubscribes observer
        | changes observer =>
          rw [site.outlook_inside rfl rfl]
          exact .takes observer
        | _ => cases observes
  | outside move =>
    refine .heeds (fun observer same => by cases same) (fun _ => rfl) ?_
    by_cases advances : ∃ number, move = .advance number
    · obtain ⟨number, rfl⟩ := advances
      exact site.hub.heeds_advance number
    · have same := site.hub.outlook_move fun number same => advances ⟨number, same⟩
      cases move <;> first | exact same | exact absurd ⟨_, rfl⟩ advances

/-! ## Runs -/

/-- What the acts of a run yield, one after the other. -/
def yields {α : Type} (each : Site → Act → List α) : Site → List Act → List α
  | _, [] => []
  | site, act :: acts => each site act ++ yields each (site.act act) acts

theorem yields_concat {α : Type} (each : Site → Act → List α) (site : Site) (acts : List Act)
    (act : Act) :
    yields each site (acts ++ [act]) = yields each site acts ++ each (site.run acts) act := by
  induction acts generalizing site with
  | nil => simp [yields]
  | cons first acts ih => simp [yields, ih, run]

/-- The modes that a run grants, each with whether the answer says that it is another one. -/
def granted (site : Site) (acts : List Act) : List (Mode × Bool) :=
  site.yields (fun site act => (site.configured? act).toList) acts

def received (site : Site) (observer : Nat) (acts : List Act) : List Mode :=
  site.yields (taken observer) acts

variable {site : Site} {act : Act} {after : Outlook} {observer : Nat}

theorem Shows.mode (shows : site.Shows act after) :
    after.mode = ((site.configured? act).toList.map Prod.fst).getLastD site.outlook.mode := by
  cases shows with
  | subscribes | unsubscribes | takes => rfl
  | heeds _ _ heeds => exact heeds.mode

theorem Shows.timed (shows : site.Shows act after) (timed : site.outlook.Timed) : after.Timed := by
  cases shows with
  | subscribes | unsubscribes | takes => exact timed
  | heeds _ _ heeds => exact heeds.timed timed

theorem Shows.answer {mode : Mode} {changed : Bool} (shows : site.Shows act after)
    (granted : site.configured? act = some (mode, changed)) :
    changed = decide (mode ≠ site.outlook.mode) := by
  cases shows with
  | subscribes | unsubscribes | takes => cases granted
  | heeds _ _ heeds =>
    rw [granted] at heeds
    exact heeds.1

/-- At every moment the mode is the last that was granted, and the interval is the one of it. -/
theorem mode_run (start : Mode) (acts : List Act) :
    ((new start).run acts).outlook.mode =
        (((new start).granted acts).map Prod.fst).getLastD start ∧
      ((new start).run acts).outlook.Timed := by
  induction acts using List.reverseRecOn with
  | nil => exact ⟨rfl, rfl⟩
  | append_singleton acts act ih =>
    obtain ⟨mode, timed⟩ := ih
    have shows := ((new start).run acts).shows_act act
    rw [run_concat]
    refine ⟨?_, shows.timed timed⟩
    rw [shows.mode, mode, granted, granted, yields_concat, List.map_append]
    cases ((new start).run acts).configured? act <;> simp

theorem Shows.changes (shows : site.Shows act after) :
    (changedModes (site.configured? act).toList = [] ∧ after.mode = site.outlook.mode) ∨
    ∃ mode, site.outlook.mode ≠ mode ∧ changedModes (site.configured? act).toList = [mode] ∧
      after.mode = mode := by
  cases shows with
  | subscribes | unsubscribes | takes => exact .inl ⟨rfl, rfl⟩
  | heeds _ _ heeds =>
    obtain ⟨none, rfl⟩ | ⟨mode, other, changed, rfl⟩ := heeds.cases
    · exact .inl ⟨none, rfl⟩
    · exact .inr ⟨mode, other, changed, rfl⟩

/-- From any moment on, each change is to another mode than the one before, and the last is to the
mode there is. -/
theorem changes_run (site : Site) (acts : List Act) :
    (site.outlook.mode :: changedModes (site.granted acts)).IsChain (· ≠ ·) ∧
      (changedModes (site.granted acts)).getLastD site.outlook.mode =
        (site.run acts).outlook.mode := by
  induction acts using List.reverseRecOn with
  | nil => exact ⟨.singleton _, rfl⟩
  | append_singleton acts act ih =>
    obtain ⟨chain, last⟩ := ih
    rw [run_concat, granted, yields_concat, changedModes_append]
    obtain ⟨none, same⟩ | ⟨mode, other, changed, now⟩ := ((site.run acts).shows_act act).changes
    · rw [none, List.append_nil, same]
      exact ⟨chain, last⟩
    · rw [changed, now, ← List.cons_append]
      refine ⟨chain.append (.singleton _) ?_, List.getLastD_concat ..⟩
      intro first isLast next isNext
      rw [List.getLast?_cons, Option.mem_some_iff, ← List.getLastD_eq_getLast?, last] at isLast
      rw [List.head?_cons, Option.mem_some_iff] at isNext
      rwa [← isLast, ← isNext]

/-- What an act does to the queue of an observer that does not leave by it: what the observer takes
comes off at the front, and a change comes on at the end. -/
theorem Shows.queue (shows : site.Shows act after)
    (there : observer < site.outlook.observers.queues.length) :
    (act = .inside (.unsubscribe observer) ∧ after.observers.queue? observer = none) ∨
    (act ≠ .inside (.unsubscribe observer) ∧
      (after.observers.queue? observer).map (fun queue => site.taken observer act ++ queue) =
        (site.outlook.observers.queue? observer).map fun queue =>
          queue ++ changedModes (site.configured? act).toList) := by
  cases shows with
  | subscribes =>
    refine .inr ⟨nofun, ?_⟩
    rw [Observers.queue?_subscribe _ there]
    simp [taken, configured?, changedModes]
  | unsubscribes other =>
    rw [Observers.queue?_unsubscribe]
    by_cases same : other = observer
    · exact .inl ⟨by rw [same], if_pos same⟩
    · refine .inr ⟨by simpa using same, ?_⟩
      rw [if_neg same]
      simp [taken, configured?, changedModes]
  | takes other =>
    refine .inr ⟨nofun, ?_⟩
    rw [Observers.queue?_take]
    by_cases same : other = observer
    · subst same
      have answer : (site.scene.step (.changes other)).2 =
          .modes (site.outlook.observers.take other).2 := rfl
      rw [taken, if_pos rfl, if_pos rfl, answer, Observers.take]
      cases site.outlook.observers.queue? other <;> simp [configured?, changedModes]
    · rw [taken, if_neg same, if_neg same]
      simp [configured?, changedModes]
  | heeds stays leaves heeds =>
    refine .inr ⟨stays observer, ?_⟩
    rw [leaves]
    obtain ⟨none, rfl⟩ | ⟨mode, -, changed, rfl⟩ := heeds.cases
    · simp [none]
    · rw [changed, Observers.queue?_broadcast]
      cases site.outlook.observers.queue? observer <;> rfl

theorem Shows.there (shows : site.Shows act after)
    (there : observer < site.outlook.observers.queues.length) :
    observer < after.observers.queues.length := by
  cases shows with
  | subscribes =>
    rw [Observers.subscribe, List.length_append]
    omega
  | unsubscribes other => rwa [Observers.unsubscribe, List.length_set]
  | takes other =>
    unfold Observers.take
    split
    · exact there
    · rwa [List.length_set]
  | heeds _ _ heeds =>
    obtain ⟨-, rfl⟩ | ⟨mode, -, -, rfl⟩ := heeds.cases
    · exact there
    · rwa [Observers.broadcast, List.length_map]

/-- What an observer has got since its queue was empty, unless it left: all changes, in order. -/
structure Follows (site : Site) (observer : Nat) (acts : List Act) : Prop where
  there : observer < (site.run acts).outlook.observers.queues.length
  gone : .inside (.unsubscribe observer) ∈ acts →
    (site.run acts).outlook.observers.queue? observer = none
  stays : .inside (.unsubscribe observer) ∉ acts →
    ∃ queue, (site.run acts).outlook.observers.queue? observer = some queue ∧
      site.received observer acts ++ queue = changedModes (site.granted acts)

theorem Follows.concat {acts : List Act} (follows : site.Follows observer acts) (act : Act) :
    site.Follows observer (acts ++ [act]) := by
  have shows := (site.run acts).shows_act act
  have there := shows.there follows.there
  rw [← run_concat] at there
  obtain ⟨rfl, none⟩ | ⟨other, queues⟩ := shows.queue follows.there
  · refine ⟨there, ?_, fun stays => absurd (List.mem_append_right _ (.head _)) stays⟩
    intro _
    rw [run_concat, none]
  · refine ⟨there, ?_, ?_⟩
    · intro gone
      have before : .inside (.unsubscribe observer) ∈ acts := by
        simpa [Ne.symm other] using gone
      rw [follows.gone before] at queues
      rw [run_concat]
      simpa using queues
    · intro stays
      obtain ⟨queue, held, all⟩ := follows.stays fun gone => stays (List.mem_append_left _ gone)
      rw [held, Option.map_some, Option.map_eq_some_iff] at queues
      obtain ⟨left, kept, split⟩ := queues
      refine ⟨left, by rw [run_concat]; exact kept, ?_⟩
      rw [received, yields_concat, granted, yields_concat, changedModes_append, List.append_assoc]
      have more := congrArg (site.received observer acts ++ ·) split
      simp only [← List.append_assoc, all] at more ⊢
      exact more

theorem follows_run (start : observer < site.outlook.observers.queues.length)
    (empty : site.outlook.observers.queue? observer = some []) (acts : List Act) :
    site.Follows observer acts := by
  induction acts using List.reverseRecOn with
  | nil => exact ⟨start, nofun, fun _ => ⟨[], empty, rfl⟩⟩
  | append_singleton acts act ih => exact ih.concat act

/-- At every moment of every mixture of users and sessions, the mode is the last that was granted
and the interval is that of its rate; an act that grants a mode answers whether it is another one.
From the moment on at which an observer subscribed, each change is to another mode than the one
before, the last being the mode there is; what the observer took and what its queue holds are
together exactly these changes, unless it left. -/
theorem outlook_of_run (start : Mode) (acts : List Act) :
    let site := (new start).run acts
    let relay := site.scene.relay
    relay.mode = (((new start).granted acts).map Prod.fst).getLastD start ∧
    relay.pacer.interval =
      max 1 (1000000000 / if relay.mode.refresh = 0 then 60 else relay.mode.refresh.toNat) ∧
    (∀ act mode changed, site.configured? act = some (mode, changed) →
      (changed = true ↔ mode ≠ relay.mode)) ∧
    ∀ before after, acts = before ++ .inside .subscribe :: after →
      let middle := (new start).run before
      let subscribed := middle.act (.inside .subscribe)
      let observer := middle.scene.relay.observers.subscribe.2
      let changes := changedModes (subscribed.granted after)
      (middle.scene.relay.mode :: changes).IsChain (· ≠ ·) ∧
      changes.getLastD middle.scene.relay.mode = relay.mode ∧
      (.inside (.unsubscribe observer) ∈ after → relay.observers.queue? observer = none) ∧
      (.inside (.unsubscribe observer) ∉ after →
        ∃ queue, relay.observers.queue? observer = some queue ∧
          subscribed.received observer after ++ queue = changes) := by
  intro site relay
  obtain ⟨mode, timed⟩ := mode_run start acts
  refine ⟨mode, ?_, ?_, ?_⟩
  · have interval : relay.pacer.interval = refreshInterval relay.mode.refresh := timed
    rw [interval, refreshInterval]
    split <;> rfl
  · intro act mode changed granted
    rw [(site.shows_act act).answer granted, decide_eq_true_iff]
    rfl
  · rintro before after rfl middle subscribed observer changes
    have later : site = subscribed.run after := by
      rw [show site = (new start).run (before ++ .inside .subscribe :: after) from rfl]
      simp [run, subscribed, middle]
    have outlook : subscribed.outlook = { middle.outlook with
        observers := middle.outlook.observers.subscribe.1 } := middle.outlook_inside rfl rfl
    obtain ⟨chain, last⟩ := subscribed.changes_run after
    rw [outlook] at chain last
    have follows : subscribed.Follows observer after := by
      apply follows_run
      · rw [outlook]
        simp [observer, Observers.subscribe, Site.outlook, Relay.outlook]
      · rw [outlook]
        exact Observers.queue?_subscribe_self _
    rw [show relay = (subscribed.run after).scene.relay from congrArg (·.scene.relay) later]
    exact ⟨chain, last, follows.gone, follows.stays⟩

/-- A mode is set in the process and another over a connection, and then asked for once more.  Of
two observers the first leaves; the other has got the second change alone. -/
theorem outlook_of_run_past_a_session :
    let before : List Act := [.inside .subscribe, .inside (.configure ⟨640, 480, 75⟩)]
    let after : List Act :=
      [.outside .connect,
        .outside (.send 0 ⟨Frame.encode (Request.configure 800 600 0).encode, []⟩),
        .outside (.advance 0), .outside (.advance 0), .inside (.unsubscribe 0),
        .inside (.configure ⟨800, 600, 60⟩)]
    let relay := ((new .default).run (before ++ .inside .subscribe :: after)).scene.relay
    relay.mode = ⟨800, 600, 60⟩ ∧ relay.pacer.interval = 16666666 ∧
    relay.observers.queue? 0 = none ∧ relay.observers.queue? 1 = some [⟨800, 600, 60⟩] := by
  intro before after relay
  obtain ⟨mode, interval, -, observed⟩ :=
    outlook_of_run .default (before ++ .inside .subscribe :: after)
  have mode : relay.mode = ⟨800, 600, 60⟩ := mode.trans (by decide +kernel)
  rw [show relay.pacer.interval = _ from interval, mode]
  have leaves : Act.inside (.unsubscribe 0) ∈ before.tail ++ .inside .subscribe :: after := by
    simp [after]
  obtain ⟨-, -, gone, -⟩ := observed [] (before.tail ++ .inside .subscribe :: after) rfl
  obtain ⟨-, -, -, stays⟩ := observed before after rfl
  have number : ((new .default).run before).scene.relay.observers.subscribe.2 = 1 := by
    decide +kernel
  have changed : changedModes ((((new .default).run before).act (.inside .subscribe)).granted
      after) = [⟨800, 600, 60⟩] := by decide +kernel
  rw [number, changed] at stays
  obtain ⟨queue, held, changes⟩ := stays (by simp [after])
  refine ⟨rfl, rfl, gone leaves, ?_⟩
  -- it has taken nothing
  have taken : (((new .default).run before).act (.inside .subscribe)).received 1 after = [] := rfl
  rw [taken, List.nil_append] at changes
  exact held.trans (congrArg some changes)

end Site

end PresentRelay
