import QTradeService.ConfigService.SubscribeQueue
import QTradeService.Grpc.UnaryCallTag

set_option relaxedAutoImplicit false
set_option autoImplicit false

/-!
# The listeners of the config service

`ConfigGrpcAsyncHandler` with all its call tags on one completion queue, which a single thread
polls. A call is accepted by a tag that has requested it, so the service listens as long as there
are such tags. `Start` makes the first ones; each tag makes its successor.

## Main definitions

* `ConfigService.ConfigGrpcAsyncHandler` — the handler with its tags.
* `ConfigService.listeners` — the handler and the queue as a machine.
* `ConfigService.AlwaysListening` — in every state of a run both calls can be accepted.
* `ConfigService.KeepsListening` — the runs in which no tag fails to make its successor.

## Main results

* `ConfigService.alwaysListening_iff` — these are the same runs.
-/

namespace ConfigService

open Grpc

variable {α : Type}

/-- A `GetEngineConfig` tag on the queue (`ConfigUnaryCallTag`). -/
abbrev GetTag (α : Type) := UnaryOnQueue GetEngineConfigRequest (GetEngineConfigResponse α)

/-- The handler with the tags that it has made; deleted tags stay in the lists. -/
structure ConfigGrpcAsyncHandler (α : Type) where
  started : Bool := false
  getTags : List (GetTag α) := []
  subscribeTags : List (TagOnQueue α) := []

/-- What the tags of `GetEngineConfig` run, where `query` is what `QueryConfig` answers. -/
def getEngineConfig (query : ConfigScope → EngineConfig α) (request : GetEngineConfigRequest)
    (response : GetEngineConfigResponse α) : GetEngineConfigResponse α × Status :=
  ({ response with engine := query request.makeConfigScope }, .OK)

namespace ConfigGrpcAsyncHandler

/-- `SpawnGetEngineConfig`, after `Init`. -/
def spawnGetEngineConfig (databaseReady : Bool) (handler : ConfigGrpcAsyncHandler α) :
    ConfigGrpcAsyncHandler α :=
  if !databaseReady then handler
  else
    { handler with
      getTags := handler.getTags ++ [.created (getEngineConfig fun _ => {}) { engineId := "" } {}] }

/-- `SpawnSubscribeEngineConfig`, after `Init`. -/
def spawnSubscribeEngineConfig (databaseReady : Bool) (handler : ConfigGrpcAsyncHandler α) :
    ConfigGrpcAsyncHandler α :=
  if !databaseReady then handler
  else { handler with subscribeTags := handler.subscribeTags ++ [.created] }

/-- `Start`, after `Init`. `DatabaseReady` is asked by `Start` and by the two calls that make the
tags. -/
def start (ready getReady subscribeReady : Bool) (handler : ConfigGrpcAsyncHandler α) :
    ConfigGrpcAsyncHandler α :=
  if handler.started || !ready then handler
  else
    { (handler.spawnGetEngineConfig getReady).spawnSubscribeEngineConfig subscribeReady with
      started := true }

end ConfigGrpcAsyncHandler

/-! ## Deliveries -/

/-- The completion of an operation of one of the tags, with what `QueryConfig` and `DatabaseReady`
answer while it is handled. -/
inductive ListenerEvent (α : Type)
  | get (index : ℕ) (completion : UnaryCompletion GetEngineConfigRequest)
    (config : ConfigScope → EngineConfig α) (databaseReady : Bool)
  | subscribe (index : ℕ) (completion : Completion α) (databaseReady : Bool)

/-- The operation that completes is outstanding. -/
def ListenerEvent.IsOutstanding (handler : ConfigGrpcAsyncHandler α) : ListenerEvent α → Prop
  | .get index completion _ _ =>
    ∃ tag ∈ handler.getTags[index]?, completion.operation ∈ tag.outstanding
  | .subscribe index completion _ =>
    ∃ tag ∈ handler.subscribeTags[index]?, completion.operation ∈ tag.outstanding

/-- The effect makes the tag of the next subscription. -/
def Effect.isSpawn : Effect α → Bool
  | .spawnSubscribeEngineConfig => true
  | _ => false

/-- Deliver a completion to a `GetEngineConfig` tag. -/
def deliverGet (index : ℕ) (completion : UnaryCompletion GetEngineConfigRequest)
    (config : ConfigScope → EngineConfig α) (databaseReady : Bool)
    (handler : ConfigGrpcAsyncHandler α) : ConfigGrpcAsyncHandler α :=
  match handler.getTags[index]? with
  | none => handler
  | some tag =>
    let (effects, tag') := tag.deliver (getEngineConfig config) completion
    let handler := { handler with getTags := handler.getTags.set index tag' }
    if (effects.getD []).any UnaryEffect.isRespawn then handler.spawnGetEngineConfig databaseReady
    else handler

/-- Deliver a completion to a `SubscribeEngineConfig` tag. -/
def deliverSubscribe (index : ℕ) (completion : Completion α) (databaseReady : Bool)
    (handler : ConfigGrpcAsyncHandler α) : ConfigGrpcAsyncHandler α :=
  match handler.subscribeTags[index]? with
  | none => handler
  | some tag =>
    let (effects, tag') := tag.deliver completion
    let handler := { handler with subscribeTags := handler.subscribeTags.set index tag' }
    if (effects.getD []).any Effect.isSpawn then handler.spawnSubscribeEngineConfig databaseReady
    else handler

/-- The handler with the queue. -/
def listeners : Machine (ConfigGrpcAsyncHandler α) (ListenerEvent α) Unit where
  step
    | .get index completion config databaseReady, handler =>
      ((), deliverGet index completion config databaseReady handler)
    | .subscribe index completion databaseReady, handler =>
      ((), deliverSubscribe index completion databaseReady handler)

/-- A new handler after `Start`. -/
def afterStart (ready getReady subscribeReady : Bool) : ConfigGrpcAsyncHandler α :=
  ({} : ConfigGrpcAsyncHandler α).start ready getReady subscribeReady

/-! ## Listening -/

/-- A `GetEngineConfig` tag is alive, and a `SubscribeEngineConfig` tag has its request
outstanding. -/
def ConfigGrpcAsyncHandler.Listening (handler : ConfigGrpcAsyncHandler α) : Prop :=
  (∃ tag ∈ handler.getTags, tag.deleted = false) ∧
    ∃ tag ∈ handler.subscribeTags, Operation.request ∈ tag.outstanding

/-- The handler listens in every state of the run after `Start`. -/
def AlwaysListening (ready getReady subscribeReady : Bool) (events : List (ListenerEvent α)) :
    Prop :=
  ∀ earlier later, events = earlier ++ later →
    (listeners.final earlier (afterStart (α := α) ready getReady subscribeReady)).Listening

/-- The tag that the event is delivered to does not vanish without a successor: a `GetEngineConfig`
operation completes with success, and so does the request of a subscription; and the database is
ready whenever a tag makes its successor. -/
def ListenerEvent.KeepsListening : ListenerEvent α → Prop
  | .get _ completion _ databaseReady =>
    completion.ok = true ∧ (completion.operation = .finish → databaseReady = true)
  | .subscribe _ completion databaseReady =>
    completion.operation = .request → completion.ok = true ∧ databaseReady = true

/-- `Start` finds the database ready, and every event that is delivered keeps the listeners. -/
structure KeepsListening (ready getReady subscribeReady : Bool) (events : List (ListenerEvent α)) :
    Prop where
  started : ready = true ∧ getReady = true ∧ subscribeReady = true
  kept : ∀ earlier event later, events = earlier ++ event :: later →
    event.IsOutstanding (listeners.final earlier (afterStart ready getReady subscribeReady)) →
      event.KeepsListening

/-! ## Counting the listeners -/

namespace ConfigGrpcAsyncHandler

/-- The number of `GetEngineConfig` tags that are alive. -/
def alive (handler : ConfigGrpcAsyncHandler α) : ℕ :=
  handler.getTags.countP fun tag => !tag.deleted

/-- The number of subscriptions whose request is outstanding. -/
def requesting (handler : ConfigGrpcAsyncHandler α) : ℕ :=
  handler.subscribeTags.countP fun tag => decide (Operation.request ∈ tag.outstanding)

/-- All tags keep their books. -/
structure Bookkept (handler : ConfigGrpcAsyncHandler α) : Prop where
  getTags : ∀ tag ∈ handler.getTags, tag.Bookkept
  subscribeTags : ∀ tag ∈ handler.subscribeTags, tag.Bookkept

/-- The handler listens if there is a tag of either kind. -/
lemma listening_iff (handler : ConfigGrpcAsyncHandler α) :
    handler.Listening ↔ 0 < handler.alive ∧ 0 < handler.requesting := by
  simp [Listening, alive, requesting, List.countP_pos_iff]

variable {handler : ConfigGrpcAsyncHandler α} {databaseReady : Bool}

/-- A new `GetEngineConfig` tag is alive. -/
lemma spawnGetEngineConfig_counts (handler : ConfigGrpcAsyncHandler α) (databaseReady : Bool) :
    (handler.spawnGetEngineConfig databaseReady).alive =
      handler.alive + (if databaseReady = true then 1 else 0) ∧
    (handler.spawnGetEngineConfig databaseReady).requesting = handler.requesting := by
  cases databaseReady with
  | false => exact ⟨rfl, rfl⟩
  | true =>
    refine ⟨?_, rfl⟩
    simp [spawnGetEngineConfig, alive, UnaryOnQueue.created, UnaryOnQueue.proceed,
      UnaryCallTag.proceed, UnaryEffect.isDelete]

/-- A new subscription has its request outstanding. -/
lemma spawnSubscribeEngineConfig_counts (handler : ConfigGrpcAsyncHandler α)
    (databaseReady : Bool) :
    (handler.spawnSubscribeEngineConfig databaseReady).alive = handler.alive ∧
    (handler.spawnSubscribeEngineConfig databaseReady).requesting =
      handler.requesting + (if databaseReady = true then 1 else 0) := by
  cases databaseReady with
  | false => exact ⟨rfl, rfl⟩
  | true =>
    have hcreated : Operation.request ∈ (TagOnQueue.created (α := α)).outstanding :=
      List.mem_singleton_self _
    refine ⟨rfl, ?_⟩
    simp [spawnSubscribeEngineConfig, requesting, hcreated]

/-- New tags keep their books. -/
lemma Bookkept.spawnGetEngineConfig (h : handler.Bookkept) (databaseReady : Bool) :
    (handler.spawnGetEngineConfig databaseReady).Bookkept := by
  cases databaseReady with
  | false => exact h
  | true =>
    refine ⟨fun tag hmem => ?_, h.subscribeTags⟩
    rcases List.mem_append.mp hmem with hmem | hmem
    · exact h.getTags tag hmem
    · rw [List.mem_singleton.mp hmem]
      exact UnaryOnQueue.bookkept_created ..

/-- New tags keep their books. -/
lemma Bookkept.spawnSubscribeEngineConfig (h : handler.Bookkept) (databaseReady : Bool) :
    (handler.spawnSubscribeEngineConfig databaseReady).Bookkept := by
  cases databaseReady with
  | false => exact h
  | true =>
    refine ⟨h.getTags, fun tag hmem => ?_⟩
    rcases List.mem_append.mp hmem with hmem | hmem
    · exact h.subscribeTags tag hmem
    · rw [List.mem_singleton.mp hmem]
      exact TagOnQueue.bookkept_created

/-- A `GetEngineConfig` tag that keeps its books may take the place of another. -/
lemma Bookkept.setGetTag (h : handler.Bookkept) (index : ℕ) {tag : GetTag α}
    (htag : tag.Bookkept) :
    ({ handler with getTags := handler.getTags.set index tag } :
      ConfigGrpcAsyncHandler α).Bookkept := by
  refine ⟨fun other hother => ?_, h.subscribeTags⟩
  rcases List.mem_or_eq_of_mem_set hother with hother | rfl
  · exact h.getTags other hother
  · exact htag

/-- A `SubscribeEngineConfig` tag that keeps its books may take the place of another. -/
lemma Bookkept.setSubscribeTag (h : handler.Bookkept) (index : ℕ) {tag : TagOnQueue α}
    (htag : tag.Bookkept) :
    ({ handler with subscribeTags := handler.subscribeTags.set index tag } :
      ConfigGrpcAsyncHandler α).Bookkept := by
  refine ⟨h.getTags, fun other hother => ?_⟩
  rcases List.mem_or_eq_of_mem_set hother with hother | rfl
  · exact h.subscribeTags other hother
  · exact htag

end ConfigGrpcAsyncHandler

/-- Only the request that accepts a call makes the tag of the next subscription. -/
lemma Delivered.any_isSpawn {completion : Completion α} {s s' : TagOnQueue α}
    {effects : List (Effect α)} (h : Delivered completion s effects s') :
    effects.any Effect.isSpawn = (completion.operation = .request && completion.ok) := by
  cases h with
  | polled hop hok | pushed hop hok =>
    rcases hop with hop | hop <;> simp [Completion.spawned, hop, hok, Effect.isSpawn]
  | acknowledged hop hok | deleted hop hok => simp [hop, Effect.isSpawn]
  | finished hop hok | stuck hop hok => simp [hok, Effect.isSpawn]

/-- What is not outstanding is not delivered.

**Proof sketch.** A tag that is not there, or that has nothing of the kind outstanding, is not
touched. -/
lemma listeners_skip {handler : ConfigGrpcAsyncHandler α} {event : ListenerEvent α}
    (h : ¬event.IsOutstanding handler) : (listeners.step event handler).2 = handler := by
  cases event with
  | get index completion config databaseReady =>
    show deliverGet index completion config databaseReady handler = handler
    unfold deliverGet
    cases htag : handler.getTags[index]? with
    | none => rfl
    | some tag =>
      have hnot : completion.operation ∉ tag.outstanding := fun hmem => h ⟨tag, htag, hmem⟩
      have hset : handler.getTags.set index tag = handler.getTags := by
        obtain ⟨hlt, rfl⟩ := List.getElem?_eq_some_iff.mp htag
        exact List.set_getElem_self hlt
      simp [UnaryOnQueue.deliver, hnot, hset]
  | subscribe index completion databaseReady =>
    show deliverSubscribe index completion databaseReady handler = handler
    unfold deliverSubscribe
    cases htag : handler.subscribeTags[index]? with
    | none => rfl
    | some tag =>
      have hnot : completion.operation ∉ tag.outstanding := fun hmem => h ⟨tag, htag, hmem⟩
      have hset : handler.subscribeTags.set index tag = handler.subscribeTags := by
        obtain ⟨hlt, rfl⟩ := List.getElem?_eq_some_iff.mp htag
        exact List.set_getElem_self hlt
      simp [TagOnQueue.deliver, hnot, hset]

/-- Replacing an element changes a count by the two elements. -/
lemma countP_set_add {β : Type} {p : β → Bool} {l : List β} {i : ℕ} {a b : β}
    (h : l[i]? = some b) :
    (l.set i a).countP p + (if p b = true then 1 else 0) =
      l.countP p + (if p a = true then 1 else 0) := by
  obtain ⟨hlt, rfl⟩ := List.getElem?_eq_some_iff.mp h
  have hset := List.countP_set (p := p) (a := a) hlt
  have hle : (if p l[i] = true then 1 else 0) ≤ l.countP p := by
    split
    · next hp => exact List.countP_pos_iff.mpr ⟨l[i], List.getElem_mem hlt, hp⟩
    · exact Nat.zero_le _
  omega

/-- A completion that is delivered to a `GetEngineConfig` tag keeps the tag or its successor
alive, or the number of tags that are alive decreases.

**Proof sketch.** The tag stays alive, and answers, if its request completes with `ok`. Otherwise it
is deleted; a `Finish` with `ok` makes the next tag first, unless the database is away. -/
lemma deliverGet_counts {handler : ConfigGrpcAsyncHandler α} {index : ℕ}
    {completion : UnaryCompletion GetEngineConfigRequest} {config : ConfigScope → EngineConfig α}
    {databaseReady : Bool} (h : handler.Bookkept)
    (hout : (ListenerEvent.get index completion config databaseReady).IsOutstanding handler) :
    (deliverGet index completion config databaseReady handler).Bookkept ∧
    (deliverGet index completion config databaseReady handler).alive +
        (if completion.ok = true ∧ (completion.operation = .finish → databaseReady = true) then 0
          else 1) = handler.alive ∧
    (deliverGet index completion config databaseReady handler).requesting = handler.requesting := by
  obtain ⟨tag, htag, hmem⟩ := hout
  have htag : handler.getTags[index]? = some tag := htag
  have htagmem : tag ∈ handler.getTags := List.mem_of_getElem? htag
  have hbooks := h.getTags tag htagmem
  obtain ⟨effects, tag', hdeliver, hbooks', hdeleted, hrespawn⟩ :=
    hbooks.deliver (getEngineConfig config) hmem
  have halive := hbooks.deleted_eq_false hmem
  -- the handler before the next tag is made
  set replaced : ConfigGrpcAsyncHandler α :=
    { handler with getTags := handler.getTags.set index tag' } with hreplaced
  have hstep : deliverGet index completion config databaseReady handler =
      if (completion.ok && completion.operation = .finish) = true then
        replaced.spawnGetEngineConfig databaseReady
      else replaced := by
    simp only [deliverGet, htag, hdeliver, Option.getD_some, hrespawn, hreplaced]
  have hreplacedbooks : replaced.Bookkept := h.setGetTag index hbooks'
  have hcount : replaced.alive + 1 =
      handler.alive + (if completion.ok = true ∧ completion.operation ≠ .finish then 1 else 0) := by
    have hset : replaced.alive + (if (!tag.deleted) = true then 1 else 0) =
        handler.alive + (if (!tag'.deleted) = true then 1 else 0) :=
      countP_set_add (p := fun tag : GetTag α => !tag.deleted) htag
    rw [halive, hdeleted] at hset
    simpa using hset
  rw [hstep]
  cases hok : completion.ok with
  | false =>
    simp only [hok, Bool.false_and, Bool.false_eq_true, if_false, false_and] at hcount ⊢
    exact ⟨hreplacedbooks, by omega, rfl⟩
  | true =>
    cases hop : completion.operation with
    | request =>
      simp only [hok, hop, ne_eq, reduceCtorEq, not_false_eq_true, and_true, if_true, decide_false,
        Bool.and_false, Bool.false_eq_true, if_false, false_implies] at hcount ⊢
      exact ⟨hreplacedbooks, by omega, rfl⟩
    | finish =>
      obtain ⟨hspawn, hkeep⟩ := replaced.spawnGetEngineConfig_counts databaseReady
      simp only [hok, hop, ne_eq, not_true_eq_false, and_false, if_false, decide_true,
        Bool.and_self, if_true, true_implies, true_and] at hcount ⊢
      refine ⟨hreplacedbooks.spawnGetEngineConfig databaseReady, ?_, hkeep⟩
      rw [hspawn]
      cases databaseReady <;> simp <;> omega

/-- A completion that is delivered to a `SubscribeEngineConfig` tag keeps the number of outstanding
requests, or the number decreases.

**Proof sketch.** A tag waits for a call until its request completes. With `ok` this makes the next
tag, unless the database is away; other completions change no request. -/
lemma deliverSubscribe_counts {handler : ConfigGrpcAsyncHandler α} {index : ℕ}
    {completion : Completion α} {databaseReady : Bool} (h : handler.Bookkept)
    (hout : (ListenerEvent.subscribe index completion databaseReady).IsOutstanding handler) :
    (deliverSubscribe index completion databaseReady handler).Bookkept ∧
    (deliverSubscribe index completion databaseReady handler).alive = handler.alive ∧
    (deliverSubscribe index completion databaseReady handler).requesting +
        (if completion.operation = .request → completion.ok = true ∧ databaseReady = true then 0
          else 1) = handler.requesting := by
  obtain ⟨tag, htag, hmem⟩ := hout
  have htag : handler.subscribeTags[index]? = some tag := htag
  have htagmem : tag ∈ handler.subscribeTags := List.mem_of_getElem? htag
  have hbooks := h.subscribeTags tag htagmem
  obtain ⟨effects, tag', hdeliver, hdelivered, hbooks'⟩ := hbooks.step hmem
  have hspawn := hdelivered.any_isSpawn
  have hdeliver : tag.deliver completion = (some effects, tag') := hdeliver
  set replaced : ConfigGrpcAsyncHandler α :=
    { handler with subscribeTags := handler.subscribeTags.set index tag' } with hreplaced
  have hstep : deliverSubscribe index completion databaseReady handler =
      if (completion.operation = .request && completion.ok) = true then
        replaced.spawnSubscribeEngineConfig databaseReady
      else replaced := by
    simp only [deliverSubscribe, htag, hdeliver, Option.getD_some, hspawn, hreplaced]
  have hreplacedbooks : replaced.Bookkept := h.setSubscribeTag index hbooks'
  have hrequest : (Operation.request ∈ tag.outstanding) ↔ completion.operation = .request := by
    cases hbooks <;> simp at hmem <;> simp [hmem]
  have hnone : Operation.request ∉ tag'.outstanding := by
    cases hdelivered <;> simp
  have hcount : replaced.requesting + (if completion.operation = .request then 1 else 0) =
      handler.requesting := by
    have hset := countP_set_add
      (p := fun tag : TagOnQueue α => decide (Operation.request ∈ tag.outstanding)) (a := tag') htag
    simp only [hrequest, hnone, decide_eq_true_eq, if_false] at hset
    exact hset
  rw [hstep]
  by_cases hop : completion.operation = .request
  · cases hok : completion.ok with
    | false =>
      simp only [hop, if_true, decide_true, Bool.and_false, Bool.false_eq_true, if_false,
        false_and, imp_false, not_true_eq_false] at hcount ⊢
      exact ⟨hreplacedbooks, rfl, by omega⟩
    | true =>
      obtain ⟨hkeep, hadd⟩ := replaced.spawnSubscribeEngineConfig_counts databaseReady
      simp only [hop, if_true, decide_true, Bool.and_self, true_and, forall_const] at hcount ⊢
      refine ⟨hreplacedbooks.spawnSubscribeEngineConfig databaseReady, hkeep, ?_⟩
      rw [hadd]
      cases databaseReady <;> simp <;> omega
  · simp only [hop, if_false, Nat.add_zero, decide_false, Bool.false_and, Bool.false_eq_true,
      false_implies, if_true] at hcount ⊢
    exact ⟨hreplacedbooks, rfl, hcount⟩

/-- A delivered completion keeps both counts, unless it takes a listener away.

**Proof sketch.** By cases on the event. One of the two counts is kept or decreases by one, the
other is not touched. -/
lemma listeners_counts {handler : ConfigGrpcAsyncHandler α} {event : ListenerEvent α}
    (h : handler.Bookkept) (hout : event.IsOutstanding handler) :
    (listeners.step event handler).2.Bookkept ∧
    (listeners.step event handler).2.alive ≤ handler.alive ∧
    (listeners.step event handler).2.requesting ≤ handler.requesting ∧
    (event.KeepsListening ↔
      (listeners.step event handler).2.alive + (listeners.step event handler).2.requesting =
        handler.alive + handler.requesting) := by
  cases event with
  | get index completion config databaseReady =>
    obtain ⟨hbooks, halive, hrequesting⟩ := deliverGet_counts h hout
    have hstep : (listeners.step (.get index completion config databaseReady) handler).2 =
        deliverGet index completion config databaseReady handler := rfl
    rw [hstep]
    refine ⟨hbooks, by omega, by omega, ?_⟩
    show completion.ok = true ∧ (completion.operation = .finish → databaseReady = true) ↔ _
    by_cases hkept : completion.ok = true ∧ (completion.operation = .finish → databaseReady = true)
    · rw [if_pos hkept] at halive
      exact ⟨fun _ => by omega, fun _ => hkept⟩
    · rw [if_neg hkept] at halive
      exact ⟨fun hkept' => absurd hkept' hkept, fun heq => by omega⟩
  | subscribe index completion databaseReady =>
    obtain ⟨hbooks, halive, hrequesting⟩ := deliverSubscribe_counts h hout
    have hstep : (listeners.step (.subscribe index completion databaseReady) handler).2 =
        deliverSubscribe index completion databaseReady handler := rfl
    rw [hstep]
    refine ⟨hbooks, by omega, by omega, ?_⟩
    show (completion.operation = .request → completion.ok = true ∧ databaseReady = true) ↔ _
    by_cases hkept : completion.operation = .request → completion.ok = true ∧ databaseReady = true
    · rw [if_pos hkept] at hrequesting
      exact ⟨fun _ => by omega, fun _ => hkept⟩
    · rw [if_neg hkept] at hrequesting
      exact ⟨fun hkept' => absurd hkept' hkept, fun heq => by omega⟩

/-- `Start` makes the first tags.

**Proof sketch.** If the service is not ready, `Start` makes no tag. Otherwise it makes one of each
kind, where the database is there. -/
lemma start_counts (ready getReady subscribeReady : Bool) :
    (afterStart (α := α) ready getReady subscribeReady).Bookkept ∧
    (afterStart (α := α) ready getReady subscribeReady).alive =
      (if ready = true ∧ getReady = true then 1 else 0) ∧
    (afterStart (α := α) ready getReady subscribeReady).requesting =
      (if ready = true ∧ subscribeReady = true then 1 else 0) := by
  have hempty : ({} : ConfigGrpcAsyncHandler α).Bookkept :=
    ⟨fun tag hmem => absurd hmem List.not_mem_nil, fun tag hmem => absurd hmem List.not_mem_nil⟩
  cases ready with
  | false => exact ⟨hempty, rfl, rfl⟩
  | true =>
    obtain ⟨halive, hrequesting⟩ :=
      ({} : ConfigGrpcAsyncHandler α).spawnGetEngineConfig_counts getReady
    obtain ⟨halive', hrequesting'⟩ :=
      (({} : ConfigGrpcAsyncHandler α).spawnGetEngineConfig
        getReady).spawnSubscribeEngineConfig_counts subscribeReady
    have hbooks := (hempty.spawnGetEngineConfig getReady).spawnSubscribeEngineConfig subscribeReady
    refine ⟨⟨hbooks.getTags, hbooks.subscribeTags⟩, ?_, ?_⟩
    · have heq := halive'.trans halive
      have hzero : ({} : ConfigGrpcAsyncHandler α).alive = 0 := rfl
      rw [hzero, Nat.zero_add] at heq
      simp only [true_and]
      exact heq
    · have hzero : ({} : ConfigGrpcAsyncHandler α).requesting = 0 := rfl
      rw [hrequesting, hzero, Nat.zero_add] at hrequesting'
      simp only [true_and]
      exact hrequesting'

/-- There is never more than one tag that waits for a call of either kind.

**Proof sketch.** Both counts are at most one after `Start`, and a delivered completion increases
neither. -/
lemma listeners_le_one (ready getReady subscribeReady : Bool) (events : List (ListenerEvent α)) :
    (listeners.final events (afterStart ready getReady subscribeReady)).Bookkept ∧
    (listeners.final events (afterStart ready getReady subscribeReady)).alive ≤ 1 ∧
    (listeners.final events (afterStart ready getReady subscribeReady)).requesting ≤ 1 := by
  refine Machine.final_invariant
    (I := fun handler : ConfigGrpcAsyncHandler α =>
      handler.Bookkept ∧ handler.alive ≤ 1 ∧ handler.requesting ≤ 1) ?_ events ?_
  · intro event handler h
    obtain ⟨hbooks, halive, hrequesting⟩ := h
    by_cases hout : event.IsOutstanding handler
    · obtain ⟨hbooks', halive', hrequesting', -⟩ := listeners_counts hbooks hout
      exact ⟨hbooks', by omega, by omega⟩
    · rw [listeners_skip hout]
      exact ⟨hbooks, halive, hrequesting⟩
  · obtain ⟨hbooks, halive, hrequesting⟩ := start_counts (α := α) ready getReady subscribeReady
    refine ⟨hbooks, ?_, ?_⟩
    · rw [halive]
      split <;> omega
    · rw [hrequesting]
      split <;> omega

/-- **When the service keeps listening.** In every state of a run after `Start` a `GetEngineConfig`
tag is alive and a subscription has its request outstanding, if and only if `Start` found the
database ready, every operation of a `GetEngineConfig` tag and every request of a subscription
completed with success, and the database was ready whenever a tag made its successor.

**Proof sketch.** At most one tag of either kind waits for a call. A completion that keeps the
listeners keeps both numbers, and any other one takes the only tag of its kind away: an operation
that fails deletes the tag, or finishes the call, before a successor is made, and a successor is
not made while the database is not ready. -/
theorem alwaysListening_iff (ready getReady subscribeReady : Bool)
    (events : List (ListenerEvent α)) :
    AlwaysListening ready getReady subscribeReady events ↔
      KeepsListening ready getReady subscribeReady events := by
  obtain ⟨hbooks, halive, hrequesting⟩ := start_counts (α := α) ready getReady subscribeReady
  constructor
  · intro h
    -- while the handler listens there is just one tag of either kind
    have hone (earlier later : List (ListenerEvent α)) (hsplit : events = earlier ++ later) :
        (listeners.final earlier (afterStart ready getReady subscribeReady)).alive = 1 ∧
        (listeners.final earlier (afterStart ready getReady subscribeReady)).requesting = 1 := by
      obtain ⟨-, hle, hle'⟩ := listeners_le_one ready getReady subscribeReady earlier
      obtain ⟨hpos, hpos'⟩ := (ConfigGrpcAsyncHandler.listening_iff _).mp (h earlier later hsplit)
      exact ⟨by omega, by omega⟩
    constructor
    · obtain ⟨hget, hsubscribe⟩ := hone [] events rfl
      rw [Machine.final_nil] at hget hsubscribe
      rw [halive] at hget
      rw [hrequesting] at hsubscribe
      cases ready <;> cases getReady <;> cases subscribeReady <;> simp at hget hsubscribe ⊢
    · intro earlier event later hsplit hout
      obtain ⟨hget, hsubscribe⟩ := hone earlier (event :: later) hsplit
      obtain ⟨hget', hsubscribe'⟩ := hone (earlier ++ [event]) later (by simp [hsplit])
      obtain ⟨hbooks', -⟩ := listeners_le_one ready getReady subscribeReady earlier
      obtain ⟨-, -, -, hkeeps⟩ := listeners_counts hbooks' hout
      rw [Machine.final_append, Machine.final_cons, Machine.final_nil] at hget' hsubscribe'
      exact hkeeps.mpr (by omega)
  · rintro ⟨⟨hready, hgetReady, hsubscribeReady⟩, hkept⟩ earlier later hsplit
    rw [ConfigGrpcAsyncHandler.listening_iff]
    suffices hone : (listeners.final earlier (afterStart ready getReady subscribeReady)).Bookkept ∧
        (listeners.final earlier (afterStart ready getReady subscribeReady)).alive = 1 ∧
        (listeners.final earlier (afterStart ready getReady subscribeReady)).requesting = 1 by
      obtain ⟨-, hget, hsubscribe⟩ := hone
      exact ⟨by omega, by omega⟩
    refine Machine.final_invariant_of_events (m := listeners)
      (I := fun handler => handler.Bookkept ∧ handler.alive = 1 ∧ handler.requesting = 1) ?_ ?_
    · intro before event after hevents h
      obtain ⟨hbooks', hget, hsubscribe⟩ := h
      by_cases hout : event.IsOutstanding (listeners.final before
          (afterStart ready getReady subscribeReady))
      · obtain ⟨hbooks'', hle, hle', hkeeps⟩ := listeners_counts hbooks' hout
        have hkeep := hkeeps.mp
          (hkept before event (after ++ later) (by simp [hsplit, hevents]) hout)
        exact ⟨hbooks'', by omega, by omega⟩
      · rw [listeners_skip hout]
        exact ⟨hbooks', hget, hsubscribe⟩
    · refine ⟨hbooks, ?_, ?_⟩
      · rw [halive, if_pos ⟨hready, hgetReady⟩]
      · rw [hrequesting, if_pos ⟨hready, hsubscribeReady⟩]

/-- A `GetEngineConfig` call whose client has gone when it is finished. -/
def clientGone : List (ListenerEvent ℕ) :=
  [.get 0 ⟨.request, true, ⟨"engine"⟩⟩ (fun _ => {}) true,
    .get 0 ⟨.finish, false, ⟨"engine"⟩⟩ (fun _ => {}) true]

/-- After that no `GetEngineConfig` tag is alive, although the database has always been ready. -/
theorem clientGone_not_alwaysListening :
    (listeners.final clientGone (afterStart true true true)).getTags.map (·.deleted) = [true] ∧
    ¬AlwaysListening true true true clientGone := by
  have hdeleted : (listeners.final clientGone
      (afterStart true true true)).getTags.map (·.deleted) = [true] := by
    decide
  refine ⟨hdeleted, fun h => ?_⟩
  obtain ⟨⟨tag, hmem, halive⟩, -⟩ := h clientGone [] rfl
  have hmem' := List.mem_map_of_mem (f := (·.deleted)) hmem
  rw [hdeleted, halive] at hmem'
  simp at hmem'

end ConfigService
