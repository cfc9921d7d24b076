import MediaGraph.Proofs.Client.Invocation
import MediaGraph.Proofs.Subscriber.Queue
import MediaGraph.Script.Basic
import Mathlib.Data.List.Induction

/-!
# What observers are told replays to the graph

Between two calls a client is at rest: nothing is queued, so whatever has happened to its graph has
been told. `Client.Heard` says what passes from one such moment to a later one: a list of changes
that leads from the graph of the one to the graph of the other, and the same list, cut down to what
each observer wants to hear, in the notices. The relation holds across every call, also across one
that fails in the middle of a batch.

`mirror_eq_replay` reads the consequences off for a client and its observers.
-/

namespace MediaGraph

def Notice.toldTo (listeners : List Nat) (notices : List Notice) : List Change :=
  (notices.filter fun notice => notice.observer ∈ listeners).map (·.change)

namespace Client

variable {σ : Type}

/-! ## Notices of one change -/

theorem mem_noticesOf {observers : List Observer} {change : Change} {notice : Notice} :
    notice ∈ noticesOf observers change ↔
      notice.change = change ∧
        ∃ observer, observers[notice.observer]? = some observer ∧
          observer.interest.hears change := by
  rcases notice with ⟨position, told⟩
  simp only [noticesOf, List.mem_filterMap, Prod.exists, List.mem_zipIdx_iff_getElem?,
    Option.ite_none_right_eq_some, Option.some.injEq, Notice.mk.injEq]
  constructor
  · rintro ⟨observer, place, present, hears, rfl, rfl⟩
    exact ⟨rfl, observer, present, hears⟩
  · rintro ⟨rfl, observer, present, hears⟩
    exact ⟨observer, position, present, hears, rfl, rfl⟩

theorem noticesOf_append (first : List Observer) (last : Observer) (change : Change) :
    noticesOf (first ++ [last]) change =
      noticesOf first change ++
        if last.interest.hears change then [⟨first.length, change⟩] else [] := by
  simp only [noticesOf, List.zipIdx_append, List.filterMap_append]
  by_cases hears : last.interest.hears change <;> simp [hears]

/-- Observers who come later change nothing about what the earlier ones are told. -/
theorem noticesOf_filter_of_isPrefix {first all : List Observer} (isFirst : first <+: all)
    (change : Change) :
    (noticesOf all change).filter (fun notice => notice.observer < first.length) =
      noticesOf first change := by
  rcases isFirst with ⟨later, rfl⟩
  induction later using List.reverseRecOn with
  | nil =>
      rw [List.append_nil, List.filter_eq_self]
      intro notice member
      rcases (mem_noticesOf.1 member).2 with ⟨observer, present, -⟩
      simpa using (List.getElem?_eq_some_iff.1 present).1
  | append_singleton later last ih =>
      rw [← List.append_assoc, noticesOf_append, List.filter_append, ih]
      split <;> simp

theorem toldTo_noticesOf (observers : List Observer) (change : Change) {position : Nat}
    {observer : Observer} (present : observers[position]? = some observer) :
    Notice.toldTo [position] (noticesOf observers change) =
      if observer.interest.hears change then [change] else [] := by
  induction observers using List.reverseRecOn with
  | nil => simp at present
  | append_singleton first last ih =>
      simp only [Notice.toldTo, noticesOf_append, List.filter_append, List.map_append] at ih ⊢
      have bound := (List.getElem?_eq_some_iff.1 present).1
      rw [List.length_append, List.length_singleton] at bound
      by_cases isLast : position = first.length
      · subst isLast
        have same : last = observer := by simpa using present
        subst same
        have unheard : (noticesOf first change).filter
            (fun notice => notice.observer ∈ [first.length]) = [] := by
          rw [List.filter_eq_nil_iff]
          intro notice member
          rcases (mem_noticesOf.1 member).2 with ⟨_, found, -⟩
          have := (List.getElem?_eq_some_iff.1 found).1
          simp only [List.mem_singleton, decide_eq_true_eq]
          omega
        rw [unheard]
        split <;> simp
      · rw [List.getElem?_append_left (by omega)] at present
        rw [ih present]
        by_cases hears : last.interest.hears change <;> simp [hears, Ne.symm isLast]

/-! ## From rest to rest -/

/-- Nothing is queued, the graph is in order, and the notices are those of known observers. -/
structure AtRest (client : Client σ) : Prop where
  drained : client.subscriber.changes = []
  filed : client.graph.WellFiled
  numbered : ∀ notice ∈ client.notices, notice.observer < client.observers.length

/-- The changes from one moment to another, and that every observer has heard of them. -/
structure Heard (news : List Change) (before after : Client σ) : Prop where
  observers : before.observers <+: after.observers
  notices : after.notices.filter (fun notice => notice.observer < before.observers.length) =
    before.notices ++ news.flatMap (noticesOf before.observers)
  graph : Graph.Leads news before.graph after.graph

theorem AtRest.heard_nil {client : Client σ} (rest : client.AtRest) : Heard [] client client where
  observers := List.prefix_refl client.observers
  notices := by
    rw [List.flatMap_nil, List.append_nil, List.filter_eq_self]
    intro notice member
    simpa using rest.numbered notice member
  graph := .refl client.graph

theorem Heard.trans {first second : List Change} {before between after : Client σ}
    (start : Heard first before between) (rest : Heard second between after) :
    Heard (first ++ second) before after where
  observers := start.observers.trans rest.observers
  notices := by
    have fewer := start.observers.length_le
    have early : ∀ notices : List Notice,
        notices.filter (fun notice => notice.observer < before.observers.length) =
          (notices.filter fun notice => notice.observer < between.observers.length).filter
            fun notice => notice.observer < before.observers.length := by
      intro notices
      rw [List.filter_filter]
      apply List.filter_congr
      intro notice _
      by_cases isEarly : notice.observer < before.observers.length
      · have stays : notice.observer < between.observers.length := by omega
        simp [isEarly, stays]
      · simp [isEarly]
    rw [early, rest.notices, List.filter_append, start.notices, List.filter_flatMap]
    simp only [noticesOf_filter_of_isPrefix start.observers, List.flatMap_append, List.append_assoc]
  graph := start.graph.trans rest.graph

/-- From rest a call leads to rest, and what has changed in between has been heard. -/
def Follows (before after : Client σ × σ) : Prop :=
  before.1.AtRest → after.1.AtRest ∧ ∃ news, Heard news before.1 after.1

theorem composes_follows : Call.Composes (Follows (σ := σ)) where
  refl state rest := ⟨rest, [], rest.heard_nil⟩
  trans start rest atRest := by
    rcases start atRest with ⟨between, first, firstHeard⟩
    rcases rest between with ⟨final, second, secondHeard⟩
    exact ⟨final, first ++ second, firstHeard.trans secondHeard⟩

theorem follows_of_same {before after : Client σ} {world changed : σ}
    (graph : after.graph = before.graph)
    (queue : after.subscriber.changes = before.subscriber.changes)
    (observers : after.observers = before.observers) (notices : after.notices = before.notices) :
    Follows (before, world) (after, changed) := by
  intro (rest : before.AtRest)
  refine ⟨⟨?_, ?_, ?_⟩, [], ?_, ?_, ?_⟩
  · rw [queue]
    exact rest.drained
  · rw [graph]
    exact rest.filed
  · rw [notices, observers]
    exact rest.numbered
  · simp only [observers, List.prefix_refl]
  · rw [notices]
    exact rest.heard_nil.notices
  · rw [graph]
    exact rest.heard_nil.graph

/-! ## A batch -/

/-- In the middle of a batch the observers have heard nothing yet, and the news is queued. -/
structure Queued (news : List Change) (before after : Client σ) : Prop where
  observers : after.observers = before.observers
  notices : after.notices = before.notices
  filed : after.graph.WellFiled
  queue : after.subscriber.changes = before.subscriber.changes ++ news
  graph : Graph.Leads news before.graph after.graph

theorem queued_nil {client : Client σ} (filed : client.graph.WellFiled) :
    Queued [] client client where
  observers := rfl
  notices := rfl
  filed := filed
  queue := by simp
  graph := .refl client.graph

theorem Queued.trans {first second : List Change} {before between after : Client σ}
    (start : Queued first before between) (rest : Queued second between after) :
    Queued (first ++ second) before after where
  observers := rest.observers.trans start.observers
  notices := rest.notices.trans start.notices
  filed := rest.filed
  queue := by rw [rest.queue, start.queue, List.append_assoc]
  graph := start.graph.trans rest.graph

theorem queued_of_deliver {transport : Transport σ} {event : Event} {client after : Client σ}
    {world changed : σ} (filed : client.graph.WellFiled)
    (delivered : client.deliver transport event world = .ok (after, changed)) :
    ∃ news, Queued news client after := by
  simp only [deliver] at delivered
  split at delivered
  case h_1 =>
    cases delivered
    exact ⟨[], rfl, rfl, filed, by simp, .refl client.graph⟩
  case h_2 =>
    split at delivered
    case h_1 subscriber world handled =>
      cases delivered
      rcases Subscriber.leads_of_handle filed handled with ⟨news, queue, leads⟩
      exact ⟨news, rfl, rfl, Subscriber.wellFiled_of_handle filed handled, queue, leads⟩
    case h_2 => cases delivered

/-- Also if an event fails, the changes of those before it are queued. -/
theorem queued_of_deliverAll (transport : Transport σ) (events : List Event) {client : Client σ}
    (world : σ) (filed : client.graph.WellFiled) :
    ∃ news, Queued news client (deliverAll transport events client world).2.1 := by
  induction events generalizing client world with
  | nil => exact ⟨[], queued_nil filed⟩
  | cons event rest ih =>
      simp only [deliverAll]
      split
      case h_1 after changed delivered =>
        rcases queued_of_deliver filed delivered with ⟨first, firstQueued⟩
        rcases ih changed firstQueued.filed with ⟨second, secondQueued⟩
        exact ⟨first ++ second, firstQueued.trans secondQueued⟩
      case h_2 => exact ⟨[], queued_nil filed⟩

/-- Telling the observers turns what is queued into what has been heard. -/
theorem Queued.follows {news : List Change} {before after : Client σ}
    (queued : Queued news before after) (world changed : σ) :
    Follows (before, world) (after.notify, changed) := by
  intro (rest : before.AtRest)
  have queue : after.subscriber.changes = news := by simpa [rest.drained] using queued.queue
  have numbered : ∀ notice ∈ news.flatMap (noticesOf before.observers),
      notice.observer < before.observers.length := by
    intro notice member
    rcases List.mem_flatMap.1 member with ⟨change, _, told⟩
    rcases (mem_noticesOf.1 told).2 with ⟨observer, present, -⟩
    exact (List.getElem?_eq_some_iff.1 present).1
  have notices : after.notify.notices =
      before.notices ++ news.flatMap (noticesOf before.observers) := by
    simp [notify, Subscriber.drain, queue, queued.notices, queued.observers]
  have observers : after.notify.observers = before.observers := queued.observers
  have known : ∀ notice ∈ after.notify.notices, notice.observer < before.observers.length := by
    intro notice member
    rw [notices] at member
    rcases List.mem_append.1 member with old | new
    · exact rest.numbered notice old
    · exact numbered notice new
  refine ⟨⟨rfl, queued.filed, ?_⟩, news, ?_, ?_, queued.graph⟩
  · rw [observers]
    exact known
  · simp only [observers, List.prefix_refl]
  · rw [← notices, List.filter_eq_self]
    intro notice member
    simpa using known notice member

/-! ## Every call -/

theorem follows_applyBatch (client : Client σ) (world : σ) (transport : Transport σ)
    (events : List Event) :
    Follows (client, world) (applyBatch transport events client world).2 := by
  intro rest
  rcases queued_of_deliverAll transport events world rest.filed with ⟨news, queued⟩
  simp only [applyBatch]
  split
  case h_1 after changed delivered =>
    rw [delivered] at queued
    exact queued.follows world changed rest
  case h_2 after changed delivered =>
    rw [delivered] at queued
    exact queued.follows world changed rest

/-- Nothing but a batch touches the graph, and nothing but a new observer the observers. -/
theorem elementary_follows : Call.Elementary (Follows (σ := σ)) where
  toComposes := composes_follows
  asking _ _ _ _ _ := follows_of_same rfl rfl rfl rfl
  batch client world transport events _ := follows_applyBatch client world transport events
  barrier _ _ _ := follows_of_same rfl rfl rfl rfl
  poison _ _ _ := follows_of_same rfl rfl rfl rfl
  bookkeeping _ _ _ := follows_of_same rfl rfl rfl rfl
  observe client world observer := by
    intro (rest : client.AtRest)
    refine ⟨⟨rest.drained, rest.filed, ?_⟩, [], List.prefix_append _ _, rest.heard_nil.notices,
      rest.heard_nil.graph⟩
    intro notice member
    have early := rest.numbered notice member
    simp only [observe, List.length_append, List.length_singleton]
    omega
  close client world := by
    simp only [close]
    split <;> exact follows_of_same rfl rfl rfl rfl

theorem follows_invocation (invocation : Invocation) :
    (invocation.call : Call σ (Option Link)).Within Halt.Never Follows :=
  elementary_follows.invocation invocation

/-! ## What one observer has been told -/

theorem toldTo_append (listeners : List Nat) (first second : List Notice) :
    Notice.toldTo listeners (first ++ second) =
      Notice.toldTo listeners first ++ Notice.toldTo listeners second := by
  simp [Notice.toldTo]

theorem toldTo_filter {listeners : List Nat} {count : Nat}
    (known : ∀ position ∈ listeners, position < count) (notices : List Notice) :
    Notice.toldTo listeners (notices.filter fun notice => notice.observer < count) =
      Notice.toldTo listeners notices := by
  simp only [Notice.toldTo, List.filter_filter]
  congr 1
  apply List.filter_congr
  intro notice _
  by_cases told : notice.observer ∈ listeners
  · simp [told, known notice.observer told]
  · simp [told]

theorem toldTo_flatMap_noticesOf {listeners : List Nat} {observers : List Observer}
    {wanted : Change → Bool}
    (each : ∀ change, Notice.toldTo listeners (noticesOf observers change) =
      if wanted change then [change] else []) (news : List Change) :
    Notice.toldTo listeners (news.flatMap (noticesOf observers)) = news.filter wanted := by
  induction news with
  | nil => rfl
  | cons change rest ih =>
      rw [List.flatMap_cons, toldTo_append, each, ih, List.filter_cons]
      split <;> rfl

/-- What each observer is told between two moments is the news that is of interest. -/
theorem Heard.toldTo {news : List Change} {before after : Client σ}
    (heard : Heard news before after) {position : Nat} {observer : Observer}
    (present : before.observers[position]? = some observer) :
    Notice.toldTo [position] after.notices =
      Notice.toldTo [position] before.notices ++ news.filter observer.interest.hears := by
  have known : ∀ other ∈ [position], other < before.observers.length := by
    simpa using (List.getElem?_eq_some_iff.1 present).1
  rw [← toldTo_filter known, heard.notices, toldTo_append]
  congr 1
  exact toldTo_flatMap_noticesOf (fun change => toldTo_noticesOf _ change present) news

/-- One observer who hears of additions and one who hears of removals hear all of both. -/
theorem Heard.toldToBoth {news : List Change} {before after : Client σ}
    (heard : Heard news before after) {first second : Nat} {arrivals departures : Observer}
    (firstPresent : before.observers[first]? = some arrivals)
    (secondPresent : before.observers[second]? = some departures)
    (hearsAdded : arrivals.interest = .added) (hearsRemoved : departures.interest = .removed) :
    Notice.toldTo [first, second] after.notices =
      Notice.toldTo [first, second] before.notices ++ news.filter Change.isArrivalOrDeparture := by
  have known : ∀ other ∈ [first, second], other < before.observers.length := by
    simpa using ⟨(List.getElem?_eq_some_iff.1 firstPresent).1,
      (List.getElem?_eq_some_iff.1 secondPresent).1⟩
  -- A change is told to one of the two at most, so it is enough to look at that one.
  have narrowed : ∀ change {deaf listener : Nat} {other : Observer},
      before.observers[deaf]? = some other → other.interest.hears change = false →
      ((noticesOf before.observers change).filter fun notice =>
        notice.observer = listener ∨ notice.observer = deaf) =
        (noticesOf before.observers change).filter fun notice => notice.observer = listener := by
    intro change deaf listener other present ignored
    apply List.filter_congr
    intro notice member
    rcases (mem_noticesOf.1 member).2 with ⟨observer, found, hears⟩
    have isOther : notice.observer ≠ deaf := by
      intro same
      rw [same, present] at found
      cases found
      rw [ignored] at hears
      cases hears
    simp [isOther]
  rw [← toldTo_filter known, heard.notices, toldTo_append]
  congr 1
  refine toldTo_flatMap_noticesOf (fun change => ?_) news
  have firstTold := toldTo_noticesOf _ change firstPresent
  have secondTold := toldTo_noticesOf _ change secondPresent
  simp only [Notice.toldTo, hearsAdded, hearsRemoved, List.mem_cons, List.not_mem_nil, or_false]
    at firstTold secondTold ⊢
  cases change with
  | added port =>
      rw [narrowed (.added port) secondPresent (by simp [hearsRemoved, Interest.hears]), firstTold]
      rfl
  | removed port =>
      simp only [or_comm (a := _ = first)]
      rw [narrowed (.removed port) firstPresent (by simp [hearsAdded, Interest.hears]), secondTold]
      rfl
  | updated previous current =>
      rw [narrowed _ secondPresent (by simp [hearsRemoved, Interest.hears]), firstTold]
      rfl

/-! ## Runs -/

theorem Reaches.heard {first current : Client σ} (reached : first.Reaches current)
    (rest : first.AtRest) : current.AtRest ∧ ∃ news, Heard news first current := by
  induction reached with
  | refl => exact ⟨rest, [], rest.heard_nil⟩
  | call _ invocation world ih =>
      rcases ih with ⟨between, early, earlyHeard⟩
      rcases (follows_invocation invocation).always _ world between with
        ⟨final, late, lateHeard⟩
      exact ⟨final, early ++ late, earlyHeard.trans lateHeard⟩

/-! ## Opening -/

theorem follows_subscribe : (subscribe : Call σ Unit).Within Halt.Never Follows := by
  apply Call.Within.still_bind composes_follows Call.steady_transport.still
  intro transport client world _
  cases phase : client.subscriber.phase with
  | uninitialized =>
      rcases answered : transport.answer .subscribeGlobals world with ⟨failure | ⟨⟩, changed⟩
      · simp only [Subscriber.start, phase, answered]
        exact follows_of_same rfl rfl rfl rfl
      · simp only [Subscriber.start, phase, answered]
        exact follows_of_same rfl rfl rfl rfl
  | listening | closed =>
      simp only [Subscriber.start, phase]
      exact follows_of_same rfl rfl rfl rfl

theorem follows_start : (start : Call σ Unit).Within Halt.Never Follows := by
  apply Call.Within.bind composes_follows follows_subscribe
  intro _
  apply Call.Within.bind composes_follows elementary_follows.looping.synchronize
  intro _
  exact elementary_follows.looping.synchronize

structure Fresh (observers : List Observer) (client : Client σ) : Prop where
  observers : client.observers = observers
  notices : client.notices = []
  graph : client.graph = .empty
  rest : client.AtRest

/-- Opening a client leads from a fresh one to the one that is open, or to what was told of it. -/
theorem heard_of_connect (backend : Backend σ) (config : Config) (observers : List Observer)
    (world : σ) :
    ∃ first last : Client σ, first.Fresh observers ∧ last.AtRest ∧ (∃ news, Heard news first last) ∧
      match (connect backend config observers world).1 with
      | .ok client => client = last
      | .error refusal => refusal.notices = last.notices := by
  simp only [connect]
  rcases backend.connect config world with ⟨failure | transport, opened⟩
  · let first : Client σ := { config, backend := backend.name, transport := none, observers }
    have rest : first.AtRest := ⟨rfl, Graph.WellFiled.empty, by simp [first]⟩
    exact ⟨first, first, ⟨rfl, rfl, rfl, rest⟩, rest, ⟨[], rest.heard_nil⟩, rfl⟩
  · let first : Client σ :=
      { config, backend := backend.name, transport := some transport, observers }
    have rest : first.AtRest := ⟨rfl, Graph.WellFiled.empty, by simp [first]⟩
    have started := follows_start.always first opened rest
    have fresh : first.Fresh observers := ⟨rfl, rfl, rfl, rest⟩
    rcases ran : start first opened with ⟨reason | ⟨⟩, client, after⟩
    · rw [ran] at started
      rcases started with ⟨clientRest, news, heard⟩
      rcases elementary_follows.close client after clientRest with ⟨last, closing, closed⟩
      refine ⟨first, (client.close after).1, fresh, last, ⟨news ++ closing, heard.trans closed⟩, ?_⟩
      simp only [first] at ran
      simp [ran]
    · rw [ran] at started
      rcases started with ⟨clientRest, news, heard⟩
      refine ⟨first, client, fresh, clientRest, ⟨news, heard⟩, ?_⟩
      simp only [first] at ran
      simp [ran]

/-! ## The log of an observer -/

theorem Fresh.replay {observers : List Observer} {first last : Client σ} {news : List Change}
    (fresh : first.Fresh observers) (heard : Heard news first last) :
    ∃ held, Change.replay .empty news = some held ∧ Graph.Mirrors held last.graph := by
  apply heard.graph .empty
  rw [fresh.graph]
  exact Graph.mirrors_empty

theorem Fresh.toldTo {observers : List Observer} {first last : Client σ} {news : List Change}
    (fresh : first.Fresh observers) (heard : Heard news first last) {position : Nat}
    {observer : Observer} (present : observers[position]? = some observer)
    (hearsAll : observer.interest = .all) : Notice.toldTo [position] last.notices = news := by
  rw [← fresh.observers] at present
  rw [heard.toldTo present, fresh.notices, hearsAll]
  simp [Notice.toldTo, Interest.hears]

/-- What a client and its observers, the first of whom are given, know of each other's past. -/
structure WellInformed (observers : List Observer) (client : Client σ) : Prop where
  /-- Replaying what an observer has been told is legal and gives the records of the graph. -/
  replay : ∀ position observer, observers[position]? = some observer → observer.interest = .all →
    ∃ held, Change.replay .empty (Notice.toldTo [position] client.notices) = some held ∧
      held.values.Perm client.graph.allPorts
  /-- For each port, additions and removals are told in turn, starting with an addition. -/
  turns : ∀ first second arrivals departures id, observers[first]? = some arrivals →
    arrivals.interest = .added → observers[second]? = some departures →
    departures.interest = .removed →
    Change.TakeTurns false ((Notice.toldTo [first, second] client.notices).filter fun change =>
      change.port.id = id)
  /-- Nobody has been told anything before being registered. -/
  silent : ∀ position, client.observers.length ≤ position →
    Notice.toldTo [position] client.notices = []
  /-- From now on all observers are told the same, in the same order, as far as they care. -/
  onward : ∀ later, client.Reaches later → ∃ news, Graph.Leads news client.graph later.graph ∧
    ∀ position observer, client.observers[position]? = some observer →
      Notice.toldTo [position] later.notices =
        Notice.toldTo [position] client.notices ++ news.filter observer.interest.hears

theorem Fresh.wellInformed {observers : List Observer} {first client : Client σ}
    {news : List Change} (fresh : first.Fresh observers) (heard : Heard news first client)
    (rest : client.AtRest) : client.WellInformed observers := by
  rcases fresh.replay heard with ⟨held, replayed, mirrors⟩
  refine ⟨?_, ?_, ?_, ?_⟩
  · intro position observer present hearsAll
    rw [fresh.toldTo heard present hearsAll]
    exact ⟨held, replayed, rest.filed.values_perm mirrors⟩
  · intro position other arrivals departures id firstPresent hearsAdded secondPresent hearsRemoved
    rw [← fresh.observers] at firstPresent secondPresent
    rw [heard.toldToBoth firstPresent secondPresent hearsAdded hearsRemoved, fresh.notices]
    have turns := Change.takeTurns_of_replay replayed id
    simpa [Notice.toldTo, List.filter_filter, Bool.and_comm] using turns
  · intro position late
    simp only [Notice.toldTo, List.map_eq_nil_iff, List.filter_eq_nil_iff]
    intro notice member
    have early := rest.numbered notice member
    simp only [List.mem_singleton, decide_eq_true_eq]
    omega
  · intro later reached
    rcases (reached.heard rest).2 with ⟨further, laterHeard⟩
    exact ⟨further, laterHeard.graph, fun position observer present => laterHeard.toldTo present⟩

/--
After every call on a client that was opened with some observers, whatever the transport did and
however the call ended, what the observers have been told replays to the graph. Also if the client
could not be opened, what its observers had been told by then can be replayed.
-/
theorem mirror_eq_replay (backend : Backend σ) (config : Config) (observers : List Observer)
    (world : σ) :
    (∀ client opened, connect backend config observers world = (.ok client, opened) →
      ∀ current, client.Reaches current → current.WellInformed observers) ∧
    (∀ refusal after, connect backend config observers world = (.error refusal, after) →
      ∀ position observer, observers[position]? = some observer → observer.interest = .all →
        ∃ held, Change.replay .empty (Notice.toldTo [position] refusal.notices) = some held) := by
  rcases heard_of_connect backend config observers world with
    ⟨first, last, fresh, rest, ⟨news, heard⟩, outcome⟩
  refine ⟨?_, ?_⟩
  · intro client opened isOpen current reached
    rw [isOpen] at outcome
    subst outcome
    rcases reached.heard rest with ⟨currentRest, further, laterHeard⟩
    exact fresh.wellInformed (heard.trans laterHeard) currentRest
  · intro refusal after refused position observer present hearsAll
    rw [refused] at outcome
    rcases fresh.replay heard with ⟨held, replayed, -⟩
    rw [show refusal.notices = last.notices from outcome, fresh.toldTo heard present hearsAll]
    exact ⟨held, replayed⟩

/-- A port comes while a client is opened and goes later; another client meets a malformed event. -/
theorem mirror_eq_replay_script :
    let observers : List Observer :=
      [{ label := "log" }, { label := "new", interest := .added },
        { label := "gone", interest := .removed }]
    let described (node : String) : Properties :=
      .ofList [(Key.nodeId, node), (Key.format, "8 bit raw midi")]
    let quiet : Script := { batches :=
      [.ok [.event (.global 5 .port), .doneLast],
        .ok [.event (.info 5 (described "10")), .doneLast], .ok [.event (.removed 5)]] }
    let broken : Script := { batches :=
      [.ok [.event (.global 5 .port), .event (.global 6 .port), .doneLast],
        .ok [.event (.info 5 (described "10")), .event (.info 6 (described "ten"))]] }
    (∃ client opened, connect Script.backend .standard observers quiet = (.ok client, opened) ∧
      (Invocation.pump.call client opened).2.1.WellInformed observers) ∧
    ∃ refusal after held, connect Script.backend .standard observers broken =
      (.error refusal, after) ∧
      Change.replay .empty (Notice.toldTo [0] refusal.notices) = some held := by
  intro observers described quiet broken
  refine ⟨?_, ?_⟩
  · have succeeds : (connect Script.backend .standard observers quiet).1.isOk = true := by
      decide +kernel
    match result : connect Script.backend .standard observers quiet with
    | (.ok client, opened) =>
        exact ⟨client, opened, rfl, (mirror_eq_replay Script.backend .standard observers quiet).1
          client opened result _ (.call (.refl client) .pump opened)⟩
    | (.error refusal, _) =>
        rw [result] at succeeds
        cases succeeds
  · have fails : (connect Script.backend .standard observers broken).1.isOk = false := by
      decide +kernel
    match result : connect Script.backend .standard observers broken with
    | (.ok client, _) =>
        rw [result] at fails
        cases fails
    | (.error refusal, after) =>
        rcases (mirror_eq_replay Script.backend .standard observers broken).2 refusal after result 0
          { label := "log" } rfl rfl with ⟨held, replayed⟩
        exact ⟨refusal, after, held, rfl, replayed⟩

end Client

end MediaGraph
