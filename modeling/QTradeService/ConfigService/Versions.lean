import QTradeService.ConfigService.ConfigScope
import QTradeService.ConfigService.Listeners

set_option relaxedAutoImplicit false
set_option autoImplicit false

/-!
# What a version denotes

The row of an engine over time, and the configurations that are answered for it. A subscriber is
sent only versions above the last one, so a version should denote one configuration. A row that
does not exist is answered with a default configuration of version 1.

## Main definitions

* `ConfigService.History` — what is stored for an engine at each moment.
* `ConfigService.AnsweredAt` — the configurations that are answered at a moment.
* `ConfigService.watch` — a subscription while the history moves on.
* `ConfigService.Denotes`, `ConfigService.StaysCurrent` — a version denotes one configuration, and
  a poll that does not write leaves the subscriber with the current one.

## Main results

* `ConfigService.denotes_iff` — for which histories this is so.
-/

namespace ConfigService

open Sql Database Grpc

variable {α : Type}

/-! ## Histories -/

/-- What is stored for an engine at each moment. Once the row is inserted it stays, its version is
at least 1, and every change of its payload increases the version. -/
structure History where
  stored : ℕ → Option StoredConfig
  kept : ∀ i, (stored i).isSome = true → (stored (i + 1)).isSome = true
  positive : ∀ i row, stored i = some row → 1 ≤ row.version
  increases : ∀ i row row', stored i = some row → stored (i + 1) = some row' →
    row.payload ≠ row'.payload → row.version < row'.version

/-- No update lowers the version. -/
def History.NeverLowered (history : History) : Prop :=
  ∀ i row row', history.stored i = some row → history.stored (i + 1) = some row' →
    row.version ≤ row'.version

/-- The row exists from the start, or its configuration of version 1 is the default one. -/
def History.AgreesWithDefault (history : History)
    (convertJsonToProto : String → Option (EngineConfig α)) (scope : ConfigScope) : Prop :=
  (history.stored 0).isSome = true ∨
    ∀ i row engine, history.stored i = some row → row.version = 1 →
      convertJsonToProto row.payload = some engine →
      configOf scope 1 engine = { version := 1, engineId := scope.engineId }

/-- All payloads can be parsed. -/
def History.Valid (history : History)
    (convertJsonToProto : String → Option (EngineConfig α)) : Prop :=
  ∀ i row, history.stored i = some row → (convertJsonToProto row.payload).isSome = true

namespace History

variable {history : History}

/-- A row that is stored stays. -/
lemma isSome_of_le {i j : ℕ} (h : i ≤ j) (hi : (history.stored i).isSome = true) :
    (history.stored j).isSome = true := by
  induction j, h using Nat.le_induction with
  | base => exact hi
  | succ j _ ih => exact history.kept j ih

/-- If no update lowers the version, the version increases over time, and as long as it stays the
same so does the payload.

**Proof sketch.** By induction on the later moment. An update that changes the payload increases the
version, so that with the version the payload is kept over every step. -/
lemma NeverLowered.le (h : history.NeverLowered) {i j : ℕ} (hij : i ≤ j) {row row' : StoredConfig}
    (hrow : history.stored i = some row) (hrow' : history.stored j = some row') :
    row.version ≤ row'.version ∧ (row.version = row'.version → row.payload = row'.payload) := by
  induction j, hij using Nat.le_induction generalizing row' with
  | base =>
    obtain rfl := Option.some.inj (hrow.symm.trans hrow')
    exact ⟨le_rfl, fun _ => rfl⟩
  | succ j hle ih =>
    have hsome := isSome_of_le hle (by rw [hrow]; rfl)
    obtain ⟨middle, hmiddle⟩ := Option.isSome_iff_exists.mp hsome
    obtain ⟨hle', hpayload⟩ := ih hmiddle
    have hstep := h j middle row' hmiddle hrow'
    refine ⟨by omega, fun heq => ?_⟩
    rw [hpayload (by omega)]
    by_contra hne
    have hlt := history.increases j middle row' hmiddle hrow' hne
    omega

end History

/-! ## Answers -/

/-- A configuration that is answered at a moment for the scope, where `query` is what `QueryConfig`
answers at each moment: by a `GetEngineConfig` call, or to a poll of a subscription. -/
inductive AnsweredAt (query : ℕ → ConfigScope → EngineConfig α) (scope : ConfigScope) (i : ℕ) :
    EngineConfig α → Prop
  | get (request : GetEngineConfigRequest) (hscope : request.makeConfigScope = scope) :
      AnsweredAt query scope i (getEngineConfig (query i) request {}).1.engine
  | subscribe (request : SubscribeEngineConfigRequest) (hscope : request.makeConfigScope = scope) :
      AnsweredAt query scope i (query i request.makeConfigScope)

/-- A version denotes one configuration. -/
def Denotes (query : ℕ → ConfigScope → EngineConfig α) (scope : ConfigScope) : Prop :=
  ∀ i j config config', AnsweredAt query scope i config → AnsweredAt query scope j config' →
    config.version = config'.version → config = config'

/-- A `GetEngineConfig` call is answered with what `QueryConfig` answers. -/
lemma getEngineConfig_engine (query : ConfigScope → EngineConfig α)
    (request : GetEngineConfigRequest) (response : GetEngineConfigResponse α) :
    (getEngineConfig query request response).1.engine = query request.makeConfigScope := rfl

/-- The answers are those to the scope. -/
lemma AnsweredAt.eq {query : ℕ → ConfigScope → EngineConfig α} {scope : ConfigScope} {i : ℕ}
    {config : EngineConfig α} (h : AnsweredAt query scope i config) : config = query i scope := by
  cases h with
  | get request hscope => rw [getEngineConfig_engine, hscope]
  | subscribe request hscope => rw [hscope]

/-! ## A subscription over time -/

/-- The history moves on, or an operation of the subscription completes. -/
inductive WatchEvent
  | change
  | complete (operation : Operation) (ok : Bool)
  deriving DecidableEq, Repr

/-- A subscription at some moment of the history. -/
structure Watch (α : Type) where
  now : ℕ
  tag : TagOnQueue α

/-- The subscription of a request while the history moves on. -/
def watch (query : ℕ → ConfigScope → EngineConfig α) (request : SubscribeEngineConfigRequest) :
    Machine (Watch α) WatchEvent (Option (List (Effect α))) where
  step
    | .change, w => (none, { w with now := w.now + 1 })
    | .complete operation ok, w =>
      let (effects, tag) := subscription.step ⟨operation, ok, request, query w.now⟩ w.tag
      (effects, { w with tag := tag })

/-- The subscription has just been made. -/
def watched : Watch α := ⟨0, TagOnQueue.created⟩

/-- The configuration that an effect hands to `Write`. -/
def Effect.writtenConfig : Effect α → Option (EngineConfig α)
  | .write response => some response.engine
  | _ => none

/-- What the subscriber receives: the configuration that is on its way, and the last one that has
arrived. -/
structure Received (α : Type) where
  writing : Option (EngineConfig α) := none
  delivered : Option (EngineConfig α) := none

/-- One more step is observed. -/
def Received.next (r : Received α) (event : WatchEvent) (effects : List (Effect α)) :
    Received α where
  writing := ((effects.filterMap Effect.writtenConfig).getLast?).or r.writing
  delivered := if event = .complete .write true then r.writing else r.delivered

/-- What the subscriber has received after a run. -/
def received (past : List (WatchEvent × Option (List (Effect α)))) : Received α :=
  past.foldl (fun r step => step.2.elim r (r.next step.1)) {}

/-- Whenever a poll of a subscription that asked for all versions does not write, the configuration
that was delivered last is the one in force. -/
def StaysCurrent (query : ℕ → ConfigScope → EngineConfig α) (scope : ConfigScope) : Prop :=
  ∀ request : SubscribeEngineConfigRequest, request.makeConfigScope = scope →
    request.sinceVersion = 0 →
    ∀ earlier event effects,
      ((watch query request).step event ((watch query request).final earlier watched)).1 =
        some effects →
      (∃ config, .queryConfig scope config ∈ effects) → (∀ response, .write response ∉ effects) →
      (received ((watch query request).trace earlier watched)).delivered =
        some (query ((watch query request).final earlier watched).now scope)

/-! ## Versions of answers -/

section Answers

variable {query : ℕ → ConfigScope → EngineConfig α} {scope : ConfigScope} {history : History}
  {convertJsonToProto : String → Option (EngineConfig α)}
  (hquery : ∀ i, query i scope = answerFor convertJsonToProto scope (history.stored i))
  (hvalid : history.Valid convertJsonToProto)

include hquery in
/-- The answer while the row does not exist. -/
lemma query_of_none {i : ℕ} (h : history.stored i = none) :
    query i scope = { version := 1, engineId := scope.engineId } := by
  rw [hquery, h]
  rfl

include hquery hvalid

/-- The answer for a row. -/
lemma query_of_some {i : ℕ} {row : StoredConfig} (h : history.stored i = some row) :
    ∃ engine, convertJsonToProto row.payload = some engine ∧
      query i scope = configOf scope row.version engine := by
  obtain ⟨engine, hengine⟩ := Option.isSome_iff_exists.mp (hvalid i row h)
  refine ⟨engine, hengine, ?_⟩
  rw [hquery, h]
  simp [answerFor, hengine]

/-- The version of the answer for a row. -/
lemma version_of_some {i : ℕ} {row : StoredConfig} (h : history.stored i = some row) :
    (query i scope).version = row.version := by
  obtain ⟨engine, -, heq⟩ := query_of_some hquery hvalid h
  rw [heq]
  rfl

/-- Every answer has a version. -/
lemma one_le_version (i : ℕ) : 1 ≤ (query i scope).version := by
  cases h : history.stored i with
  | none => rw [query_of_none hquery h]
  | some row =>
    rw [version_of_some hquery hvalid h]
    exact history.positive i row h

/-- The versions of the answers increase over time, if no update lowers the version. -/
lemma version_mono (hlower : history.NeverLowered) {i j : ℕ} (hij : i ≤ j) :
    (query i scope).version ≤ (query j scope).version := by
  cases hi : history.stored i with
  | none =>
    rw [query_of_none hquery hi]
    exact one_le_version hquery hvalid j
  | some row =>
    have hsome := History.isSome_of_le hij (by rw [hi]; rfl)
    obtain ⟨row', hj⟩ := Option.isSome_iff_exists.mp hsome
    rw [version_of_some hquery hvalid hi, version_of_some hquery hvalid hj]
    exact (hlower.le hij hi hj).1

/-- Answers with the same version are the same, if no update lowers the version and the default
configuration does not get in the way.

**Proof sketch.** If the scope has a row at both moments, an equal version means an equal payload.
If it had none at first, the answer was the default one, which agrees with any row of version 1. -/
lemma query_eq_of_version (hlower : history.NeverLowered)
    (hdefault : history.AgreesWithDefault convertJsonToProto scope) {i j : ℕ} (hij : i ≤ j)
    (hversion : (query i scope).version = (query j scope).version) :
    query i scope = query j scope := by
  cases hi : history.stored i with
  | none =>
    cases hj : history.stored j with
    | none => rw [query_of_none hquery hi, query_of_none hquery hj]
    | some row =>
      obtain ⟨engine, hengine, heq⟩ := query_of_some hquery hvalid hj
      have hone : row.version = 1 := by
        rw [query_of_none hquery hi, version_of_some hquery hvalid hj] at hversion
        exact hversion.symm
      rcases hdefault with hstart | hdefault
      · have hsome := History.isSome_of_le (Nat.zero_le i) hstart
        rw [hi] at hsome
        cases hsome
      · rw [query_of_none hquery hi, heq, hone]
        exact (hdefault j row engine hj hone hengine).symm
  | some row =>
    have hsome := History.isSome_of_le hij (by rw [hi]; rfl)
    obtain ⟨row', hj⟩ := Option.isSome_iff_exists.mp hsome
    obtain ⟨engine, hengine, heq⟩ := query_of_some hquery hvalid hi
    obtain ⟨engine', hengine', heq'⟩ := query_of_some hquery hvalid hj
    rw [version_of_some hquery hvalid hi, version_of_some hquery hvalid hj] at hversion
    have hpayload := (hlower.le hij hi hj).2 hversion
    have hsame : engine = engine' := by
      rw [hpayload, hengine'] at hengine
      exact (Option.some.inj hengine).symm
    rw [heq, heq', hversion, hsame]

end Answers

/-! ## What a subscriber has received -/

/-- What is not delivered is not observed. -/
@[simp] lemma received_skip (past : List (WatchEvent × Option (List (Effect α))))
    (event : WatchEvent) : received (past ++ [(event, none)]) = received past := by
  simp [received]

/-- A delivery is observed. -/
@[simp] lemma received_deliver (past : List (WatchEvent × Option (List (Effect α))))
    (event : WatchEvent) (effects : List (Effect α)) :
    received (past ++ [(event, some effects)]) = (received past).next event effects := by
  simp [received]

/-- The subscriber has the acknowledged version: the configuration that was delivered last was
answered at some earlier moment. -/
def Received.Has (r : Received α) (query : ℕ → ConfigScope → EngineConfig α) (scope : ConfigScope)
    (now sinceVersion : ℕ) : Prop :=
  r.delivered = none ∧ sinceVersion = 0 ∨
    ∃ i ≤ now, r.delivered = some (query i scope) ∧ sinceVersion = (query i scope).version

/-- The fields of the tag agree with what the subscriber has received. -/
structure Keeps (query : ℕ → ConfigScope → EngineConfig α) (scope : ConfigScope) (r : Received α)
    (w : Watch α) : Prop where
  books : w.tag.Bookkept
  unaccepted : w.tag.tag.accepted = false → r.delivered = none
  sameScope : w.tag.tag.accepted = true → w.tag.tag.scope = scope
  delivered : w.tag.tag.accepted = true → r.Has query scope w.now w.tag.tag.sinceVersion
  writing : Operation.write ∈ w.tag.outstanding →
    ∃ i ≤ w.now, r.writing = some (query i scope) ∧ w.tag.tag.outgoing.engine = query i scope

section Keeps

variable {query : ℕ → ConfigScope → EngineConfig α} {scope : ConfigScope}
  {request : SubscribeEngineConfigRequest} {r : Received α} {w : Watch α}

/-- Time goes by. -/
lemma Keeps.change (h : Keeps query scope r w) :
    Keeps query scope r { w with now := w.now + 1 } where
  books := h.books
  unaccepted := h.unaccepted
  sameScope := h.sameScope
  delivered haccepted := by
    rcases h.delivered haccepted with hnone | ⟨i, hi, hdelivered⟩
    · exact .inl hnone
    · exact .inr ⟨i, Nat.le_succ_of_le hi, hdelivered⟩
  writing hwrite := by
    obtain ⟨i, hi, hwriting⟩ := h.writing hwrite
    exact ⟨i, Nat.le_succ_of_le hi, hwriting⟩

/-- The tag that polls asks for the scope, above the version that the subscriber has.

**Proof sketch.** By what the tag waits for. A request sets the version 0, as long as nothing was
delivered; after an alarm the version is that of the last delivery. -/
lemma Keeps.poller (h : Keeps query scope r w) (hscope : request.makeConfigScope = scope)
    (hsince : request.sinceVersion = 0) {operation : Operation} (ok : Bool)
    (hmem : operation ∈ w.tag.outstanding) (hop : operation = .request ∨ operation = .alarm) :
    let poller := (Completion.mk operation ok request (query w.now)).poller w.tag.tag
    poller.accepted = true ∧ poller.scope = scope ∧
      r.Has query scope w.now poller.sinceVersion := by
  intro poller
  obtain ⟨now, tag⟩ := w
  have hbooks : tag.Bookkept := h.books
  cases hbooks with
  | requested hstatus haccepted =>
    have hrequest : operation = .request := List.mem_singleton.mp hmem
    have hpoller : poller.accepted = true ∧ poller.scope = request.makeConfigScope ∧
        poller.sinceVersion = request.sinceVersion := by
      simp [poller, Completion.poller, hrequest]
    obtain ⟨haccepted', hscope', hsince'⟩ := hpoller
    exact ⟨haccepted', hscope'.trans hscope, .inl ⟨h.unaccepted haccepted, hsince'.trans hsince⟩⟩
  | @waiting tag hstatus haccepted =>
    have halarm : operation = .alarm := List.mem_singleton.mp hmem
    have hpoller : poller = tag := by simp [poller, Completion.poller, halarm]
    rw [hpoller]
    exact ⟨haccepted, h.sameScope haccepted, h.delivered haccepted⟩
  | writing | finishing => rcases hop with hop | hop <;> simp [hop] at hmem
  | done => cases hmem

/-- What is observed of a step that writes nothing and is not a write that has completed. -/
lemma Received.next_of_operation (r : Received α) {operation : Operation} {ok : Bool}
    {effects : List (Effect α)} (hop : operation ≠ .write ∨ ok = false)
    (heffects : effects.filterMap Effect.writtenConfig = []) :
    r.next (.complete operation ok) effects = r := by
  rcases hop with hop | hok
  · simp [Received.next, hop, heffects]
  · simp [Received.next, hok, heffects]

variable {operation : Operation} {ok : Bool}

/-- A poll that does not write keeps the fields of the tag in agreement with what the subscriber has
received, as nothing reaches the subscriber. -/
lemma Keeps.poll (h : Keeps query scope r w) (hscope : request.makeConfigScope = scope)
    (hsince : request.sinceVersion = 0) {completion : Completion α}
    (hcompletion : completion = ⟨operation, ok, request, query w.now⟩)
    (hmem : operation ∈ w.tag.outstanding) (hop : operation = .request ∨ operation = .alarm)
    {config : EngineConfig α}
    (hbooks : (TagOnQueue.mk (completion.poller w.tag.tag) [.alarm] false).Bookkept) :
    Keeps query scope (r.next (.complete operation ok) (completion.spawned ++
        [.queryConfig (completion.poller w.tag.tag).scope config, .setAlarm]))
      { w with tag := ⟨completion.poller w.tag.tag, [.alarm], false⟩ } := by
  obtain ⟨haccepted, hscope', hhas⟩ := h.poller hscope hsince ok hmem hop
  rw [← hcompletion] at haccepted hscope' hhas
  have hnext : r.next (.complete operation ok) (completion.spawned ++
      [.queryConfig (completion.poller w.tag.tag).scope config, .setAlarm]) = r := by
    apply r.next_of_operation
    · left
      rcases hop with hop | hop <;> simp [hop]
    · unfold Completion.spawned
      split <;> simp [List.filterMap_cons, Effect.writtenConfig]
  rw [hnext]
  refine ⟨hbooks, fun hnot => ?_, fun _ => hscope', fun _ => hhas, fun hwrite => ?_⟩
  · exact absurd (haccepted.symm.trans hnot) (by decide)
  · simp at hwrite

/-- A poll that writes keeps the fields of the tag in agreement with what the subscriber has
received: the current configuration is on its way. -/
lemma Keeps.push (h : Keeps query scope r w) (hscope : request.makeConfigScope = scope)
    (hsince : request.sinceVersion = 0) {completion : Completion α}
    (hcompletion : completion = ⟨operation, ok, request, query w.now⟩)
    (hmem : operation ∈ w.tag.outstanding) (hop : operation = .request ∨ operation = .alarm)
    {config : EngineConfig α}
    (hconfig : config = completion.config (completion.poller w.tag.tag).scope)
    (hbooks : (TagOnQueue.mk { completion.poller w.tag.tag with
      outgoing := ⟨config⟩
      writeInFlight := true
      status := .kWrite } [.write] false).Bookkept) :
    Keeps query scope (r.next (.complete operation ok) (completion.spawned ++
        [.queryConfig (completion.poller w.tag.tag).scope config, .write ⟨config⟩]))
      { w with tag := ⟨{ completion.poller w.tag.tag with
        outgoing := ⟨config⟩
        writeInFlight := true
        status := .kWrite }, [.write], false⟩ } := by
  obtain ⟨haccepted, hscope', hhas⟩ := h.poller hscope hsince ok hmem hop
  rw [← hcompletion] at haccepted hscope' hhas
  have hquery : config = query w.now scope := by rw [hconfig, hscope', hcompletion]
  set effects : List (Effect α) := completion.spawned ++
    [.queryConfig (completion.poller w.tag.tag).scope config, .write ⟨config⟩] with heffects
  have hdelivered : (r.next (.complete operation ok) effects).delivered = r.delivered := by
    rcases hop with hop | hop <;> simp [Received.next, hop]
  have hwriting : (r.next (.complete operation ok) effects).writing = some config := by
    rw [heffects]
    unfold Completion.spawned
    split <;> simp [Received.next, List.filterMap_cons, Effect.writtenConfig]
  refine ⟨hbooks, fun hnot => ?_, fun _ => hscope', fun _ => ?_, fun _ => ?_⟩
  · exact absurd (haccepted.symm.trans hnot) (by decide)
  · unfold Received.Has
    rw [hdelivered]
    exact hhas
  · exact ⟨w.now, le_rfl, by rw [hwriting, hquery], hquery⟩

/-- A write that is done keeps the fields of the tag in agreement with what the subscriber has
received: what was on its way has arrived. -/
lemma Keeps.acknowledge (h : Keeps query scope r w)
    (hmem : Operation.write ∈ w.tag.outstanding)
    (hbooks : (TagOnQueue.mk { w.tag.tag with
      writeInFlight := false
      sinceVersion := w.tag.tag.outgoing.engine.version
      status := .kAccept } [.alarm] false).Bookkept) :
    Keeps query scope (r.next (.complete .write true) [Effect.setAlarm (α := α)])
      { w with tag := ⟨{ w.tag.tag with
        writeInFlight := false
        sinceVersion := w.tag.tag.outgoing.engine.version
        status := .kAccept }, [.alarm], false⟩ } := by
  obtain ⟨i, hi, hwriting, houtgoing⟩ := h.writing hmem
  have haccepted : w.tag.tag.accepted = true := h.books.accepted_of_write hmem
  have hdelivered : (r.next (.complete .write true) [Effect.setAlarm (α := α)]).delivered =
      some (query i scope) := by
    simp [Received.next, hwriting]
  refine ⟨hbooks, fun hnot => ?_, fun _ => h.sameScope haccepted, fun _ => ?_, fun hwrite => ?_⟩
  · exact absurd (haccepted.symm.trans hnot) (by decide)
  · exact .inr ⟨i, hi, hdelivered, congrArg EngineConfig.version houtgoing⟩
  · simp at hwrite

/-- A delivery keeps the fields of the tag in agreement with what the subscriber has received.

**Proof sketch.** By what the completion does. A poll that does not write changes nothing for the
subscriber. One that writes puts the current configuration on its way, whose acknowledgement
delivers it; the other completions leave the call to end. -/
lemma Keeps.deliver (h : Keeps query scope r w) (hscope : request.makeConfigScope = scope)
    (hsince : request.sinceVersion = 0)
    (hmem : operation ∈ w.tag.outstanding) {effects : List (Effect α)} {tag' : TagOnQueue α}
    (hdelivered : Delivered ⟨operation, ok, request, query w.now⟩ w.tag effects tag')
    (hbooks : tag'.Bookkept) :
    Keeps query scope (r.next (.complete operation ok) effects) { w with tag := tag' } := by
  cases hdelivered with
  | polled hop hok hpoller hconfig hversion =>
    subst hpoller
    exact h.poll hscope hsince rfl hmem hop hbooks
  | pushed hop hok hpoller hconfig hversion =>
    subst hpoller
    exact h.push hscope hsince rfl hmem hop hconfig hbooks
  | acknowledged hop hok =>
    have hop : operation = .write := hop
    have hok : ok = true := hok
    subst hop hok
    exact h.acknowledge hmem hbooks
  | finished hop hok =>
    rw [r.next_of_operation (.inr hok) (by simp [List.filterMap_cons, Effect.writtenConfig])]
    refine ⟨hbooks, h.unaccepted, h.sameScope, h.delivered, fun hwrite => ?_⟩
    simp at hwrite
  | deleted hop hok | stuck hop hok =>
    have hop : operation = .finish := hop
    rw [r.next_of_operation (.inl (by simp [hop])) (by simp [Effect.writtenConfig])]
    refine ⟨hbooks, h.unaccepted, h.sameScope, h.delivered, fun hwrite => ?_⟩
    simp at hwrite

variable (query) in
/-- Along a run, the fields of the tag agree with what the subscriber has received.

**Proof sketch.** By induction on the run. A change of the database moves the time, and a completion
is delivered or skipped. -/
lemma keeps_final (hscope : request.makeConfigScope = scope) (hsince : request.sinceVersion = 0)
    (events : List WatchEvent) :
    Keeps query scope (received ((watch query request).trace events watched))
      ((watch query request).final events watched) := by
  refine Machine.trace_invariant (m := watch query request)
    (I := fun past w => Keeps query scope (received past) w) ?_ ?_ events
  · refine ⟨TagOnQueue.bookkept_created, fun _ => rfl, ?_, ?_, fun hwrite => ?_⟩
    · intro haccepted
      cases haccepted
    · intro haccepted
      cases haccepted
    · exact absurd (List.mem_singleton.mp hwrite) (by decide)
  · intro past event w h
    cases event with
    | change =>
      have hstep : (watch query request).step .change w = (none, { w with now := w.now + 1 }) := rfl
      rw [hstep, received_skip]
      exact h.change
    | complete operation ok =>
      by_cases hmem : operation ∈ w.tag.outstanding
      · obtain ⟨effects, tag', hstep, hdelivered, hbooks⟩ :=
          h.books.step (show (Completion.mk operation ok request (query w.now)).operation ∈
            w.tag.outstanding from hmem)
        have hwatch : (watch query request).step (.complete operation ok) w =
            (some effects, { w with tag := tag' }) := by
          simp only [watch, hstep]
        rw [hwatch, received_deliver]
        exact h.deliver hscope hsince hmem hdelivered hbooks
      · have hstep : subscription.step ⟨operation, ok, request, query w.now⟩ w.tag =
            (none, w.tag) := TagOnQueue.deliver_of_not_mem hmem
        have hwatch : (watch query request).step (.complete operation ok) w = (none, w) := by
          simp only [watch, hstep]
        rw [hwatch, received_skip]
        exact h

end Keeps

/-! ## The histories whose versions denote one configuration -/

/-- The history moves on. -/
lemma watch_replicate_change (query : ℕ → ConfigScope → EngineConfig α)
    (request : SubscribeEngineConfigRequest) (n : ℕ) (w : Watch α) :
    (watch query request).final (List.replicate n .change) w = { w with now := w.now + n } := by
  induction n generalizing w with
  | zero => rfl
  | succ n ih =>
    have hstep : ((watch query request).step .change w).2 = { w with now := w.now + 1 } := rfl
    rw [List.replicate_succ, Machine.final_cons, hstep, ih]
    simp only [Watch.mk.injEq, and_true]
    omega

/-- A subscription that was made early has received the configuration of any moment by the next
one, and then waits for its alarm.

**Proof sketch.** Let the configuration change `i` times before the request completes. Then the
request writes the configuration of the moment `i`, its write completes, and one more change
follows. -/
lemma watch_received (query : ℕ → ConfigScope → EngineConfig α)
    (request : SubscribeEngineConfigRequest) (i : ℕ)
    (hversion : request.sinceVersion < (query i request.makeConfigScope).version) :
    ∃ earlier tag, (watch query request).final earlier watched = ⟨i + 1, ⟨tag, [.alarm], false⟩⟩ ∧
      tag.accepted = true ∧ tag.scope = request.makeConfigScope ∧
      tag.sinceVersion = (query i request.makeConfigScope).version := by
  set start : SubscribeConfigCallTag α := (TagOnQueue.created (α := α)).tag with hstart
  -- the tag while the configuration is written
  set writing : SubscribeConfigCallTag α :=
    { start with
      request := request
      accepted := true
      scope := request.makeConfigScope
      sinceVersion := request.sinceVersion
      outgoing := ⟨query i request.makeConfigScope⟩
      writeInFlight := true
      status := .kWrite } with hwriting
  -- the tag after that
  set waiting : SubscribeConfigCallTag α :=
    { writing with
      writeInFlight := false
      sinceVersion := (query i request.makeConfigScope).version
      status := .kAccept } with hwaiting
  have hrequest : ((watch query request).step (.complete .request true) ⟨i, TagOnQueue.created⟩).2 =
      ⟨i, ⟨writing, [.write], false⟩⟩ := by
    obtain ⟨effects, tag', hstep, hdelivered, -⟩ :=
      (TagOnQueue.bookkept_created (α := α)).step
        (show (Completion.mk .request true request (query i)).operation ∈ _ from
          List.mem_singleton_self _)
    have htag : tag' = ⟨writing, [.write], false⟩ := by
      cases hdelivered with
      | polled hop hok hpoller hconfig hle =>
        rw [hconfig, hpoller] at hle
        have hle : (query i request.makeConfigScope).version ≤ request.sinceVersion := hle
        omega
      | pushed hop hok hpoller hconfig hlt =>
        rw [hconfig, hpoller]
        rfl
      | acknowledged hop | finished _ hop | deleted hop | stuck hop => cases hop
    simp only [watch, hstep, htag]
  have hwrite : ((watch query request).step (.complete .write true)
      ⟨i, ⟨writing, [.write], false⟩⟩).2 = ⟨i, ⟨waiting, [.alarm], false⟩⟩ := by
    obtain ⟨effects, tag', hstep, hdelivered, -⟩ :=
      (@TagOnQueue.Bookkept.writing _ writing rfl rfl rfl).step
        (show (Completion.mk .write true request (query i)).operation ∈ _ from
          List.mem_singleton_self _)
    cases hdelivered with
    | acknowledged => simp only [watch, hstep]; rfl
    | polled hop | pushed hop => rcases hop with hop | hop <;> cases hop
    | finished _ hop | deleted hop | stuck hop => cases hop
  refine ⟨List.replicate i .change ++ [.complete .request true, .complete .write true, .change],
    waiting, ?_, rfl, rfl, rfl⟩
  have hchange := watch_replicate_change query request i watched
  have hnow : ({ watched with now := (watched (α := α)).now + i } : Watch α) =
      ⟨i, TagOnQueue.created⟩ := by
    simp [watched]
  rw [hnow] at hchange
  rw [Machine.final_append, hchange, Machine.final_cons, hrequest, Machine.final_cons, hwrite]
  rfl

section Denotes

variable {query : ℕ → ConfigScope → EngineConfig α} {history : History}
  {convertJsonToProto : String → Option (EngineConfig α)} {engineId : String}
  (hquery : ∀ i, query i (GetEngineConfigRequest.mk engineId).makeConfigScope =
    answerFor convertJsonToProto (GetEngineConfigRequest.mk engineId).makeConfigScope
      (history.stored i))
  (hvalid : history.Valid convertJsonToProto)

include hquery hvalid

/-- If polls that do not write leave the subscriber with the current configuration, no update
lowers the version.

**Proof sketch.** A subscription that has received a version does not write a lower one. -/
lemma neverLowered_of_staysCurrent
    (h : StaysCurrent query (GetEngineConfigRequest.mk engineId).makeConfigScope) :
    history.NeverLowered := by
  intro i row row' hrow hrow'
  by_contra hlower
  set request : SubscribeEngineConfigRequest := { engineId := engineId } with hrequest
  have hscope :
      request.makeConfigScope = (GetEngineConfigRequest.mk engineId).makeConfigScope := rfl
  have hversion := version_of_some hquery hvalid hrow
  have hversion' := version_of_some hquery hvalid hrow'
  have hpositive := history.positive i row hrow
  have hasks : request.sinceVersion < (query i request.makeConfigScope).version := by
    rw [hscope, hversion]
    exact hpositive
  obtain ⟨earlier, tag, hfinal, haccepted, hsame, hsince⟩ := watch_received query request i hasks
  have hkeeps := keeps_final query hscope rfl earlier
  rw [hfinal] at hkeeps
  -- the next poll reads the lower version and does not write
  obtain ⟨effects, tag', hstep, hdelivered, -⟩ := hkeeps.books.step
    (show (Completion.mk .alarm true request (query (i + 1))).operation ∈ _ from
      List.mem_singleton_self _)
  have hwatch : ((watch query request).step (.complete .alarm true)
      ((watch query request).final earlier watched)).1 = some effects := by
    rw [hfinal]
    simp only [watch, hstep]
  have hlow : (query (i + 1) tag.scope).version ≤ tag.sinceVersion := by
    rw [hsame, hsince, hscope, hversion, hversion']
    omega
  have hpoll : effects = [.queryConfig tag.scope (query (i + 1) tag.scope), .setAlarm] := by
    cases hdelivered with
    | polled hop hok hpoller hconfig => rw [hconfig, hpoller]; rfl
    | pushed hop hok hpoller hconfig hlt =>
      rw [hconfig, hpoller] at hlt
      have hlt : tag.sinceVersion < (query (i + 1) tag.scope).version := hlt
      omega
    | acknowledged hop | deleted hop | stuck hop => cases hop
    | finished _ hok => cases hok
  have hcurrent := h request hscope rfl earlier _ effects hwatch
    ⟨query (i + 1) tag.scope, by rw [hpoll, hsame, hscope]; simp⟩ (by rw [hpoll]; simp)
  rw [hfinal] at hcurrent
  rcases hkeeps.delivered haccepted with ⟨hnone, -⟩ | ⟨k, -, hsome, hsince'⟩
  · rw [hnone] at hcurrent
    cases hcurrent
  · rw [hsome] at hcurrent
    have heq := Option.some.inj hcurrent
    have hsince' : tag.sinceVersion = _ := hsince'
    rw [heq, hversion', hsince, hscope, hversion] at hsince'
    omega

/-- If a version denotes one configuration, the default one does not get in the way.

**Proof sketch.** If the scope had no row at first, the default configuration was answered for the
version 1, so that a row with this version has to agree with it. -/
lemma agreesWithDefault_of_denotes
    (h : Denotes query (GetEngineConfigRequest.mk engineId).makeConfigScope) :
    history.AgreesWithDefault convertJsonToProto
      (GetEngineConfigRequest.mk engineId).makeConfigScope := by
  cases hstart : history.stored 0 with
  | some row => exact .inl (by rw [hstart]; rfl)
  | none =>
    refine .inr fun i row engine hrow hone hengine => ?_
    have hsome := query_of_some hquery hvalid hrow
    obtain ⟨engine', hengine', heq⟩ := hsome
    obtain rfl := Option.some.inj (hengine.symm.trans hengine')
    have hdefault := query_of_none hquery hstart
    have hsame := h i 0 _ _ (.get ⟨engineId⟩ rfl) (.get ⟨engineId⟩ rfl)
    rw [getEngineConfig_engine, getEngineConfig_engine, version_of_some hquery hvalid hrow,
      hdefault, heq, hone] at hsame
    exact hsame rfl

/-- If no update lowers the version and the default configuration does not get in the way, polls
that do not write leave the subscriber with the current configuration.

**Proof sketch.** A poll that does not write has read no greater version than the one delivered
last. Since versions do not decrease they are equal, and so are the configurations. -/
lemma staysCurrent_of_agrees (hlower : history.NeverLowered)
    (hdefault : history.AgreesWithDefault convertJsonToProto
      (GetEngineConfigRequest.mk engineId).makeConfigScope) :
    StaysCurrent query (GetEngineConfigRequest.mk engineId).makeConfigScope := by
  intro request hscope hsince earlier event effects hstep hpoll hnowrite
  have hkeeps := keeps_final query hscope hsince earlier
  set w := (watch query request).final earlier watched with hw
  cases event with
  | change => cases hstep
  | complete operation ok =>
    have hmem : operation ∈ w.tag.outstanding := by
      by_contra hnot
      have hskip : subscription.step ⟨operation, ok, request, query w.now⟩ w.tag = (none, w.tag) :=
        TagOnQueue.deliver_of_not_mem hnot
      simp only [watch, hskip] at hstep
      cases hstep
    obtain ⟨effects', tag', hrun, hdelivered, -⟩ := hkeeps.books.step
      (show (Completion.mk operation ok request (query w.now)).operation ∈ w.tag.outstanding from
        hmem)
    obtain rfl : effects' = effects := by
      simp only [watch, hrun] at hstep
      exact Option.some.inj hstep
    cases hdelivered with
    | polled hop hok hpoller hconfig hversion =>
      obtain ⟨-, hsame, hhas⟩ := hkeeps.poller hscope hsince ok hmem hop
      rw [← hpoller] at hsame hhas
      rw [hconfig, hsame] at hversion
      have hversion : (query w.now _).version ≤ _ := hversion
      have hone := one_le_version hquery hvalid w.now
      rcases hhas with ⟨-, hzero⟩ | ⟨k, hk, hdelivered, hlast⟩
      · omega
      · have hmono := version_mono hquery hvalid hlower hk
        rw [hdelivered, query_eq_of_version hquery hvalid hlower hdefault hk (by omega)]
    | @pushed poller config =>
      exact absurd (List.mem_append_right _ (by simp)) (hnowrite ⟨config⟩)
    | acknowledged | finished | deleted | stuck => simp at hpoll

end Denotes

/-! ## On a database -/

/-- What `QueryConfig` answers, where `moments` are the states of the database over time. -/
def queriesAt {σ : Type} (db : Program.Handler Call.Answer σ)
    (convertJsonToProto : String → Option (EngineConfig α)) (moments : ℕ → σ) :
    ℕ → ConfigScope → EngineConfig α :=
  fun i scope => (Program.run db (queryConfig convertJsonToProto scope) (moments i)).1

/-- The answers for the scope of an engine. -/
lemma queriesAt_eq {σ : Type} {db : Program.Handler Call.Answer σ}
    {content : σ → Session Dao.configSchema} {counting : Counting}
    (hdb : ConformsInFull False counting db content)
    (convertJsonToProto : String → Option (EngineConfig α)) (engineId : String)
    {stored : ℕ → Option StoredConfig} (moments : ℕ → σ)
    (hholds : ∀ i, Holds (content (moments i)).view
      (GetEngineConfigRequest.mk engineId).makeConfigScope (stored i)) (i : ℕ) :
    queriesAt db convertJsonToProto moments i
        (GetEngineConfigRequest.mk engineId).makeConfigScope =
      answerFor convertJsonToProto (GetEngineConfigRequest.mk engineId).makeConfigScope
        (stored i) := by
  have hengine : (GetEngineConfigRequest.mk engineId).makeConfigScope.engineId ≠ "" := by
    show normalizeScopeField engineId ≠ ""
    unfold normalizeScopeField
    split
    · decide
    · assumption
  have hanswer := queryConfig_ensures convertJsonToProto hdb
    (by simp [GetEngineConfigRequest.makeConfigScope]) hengine (moments i) (hholds i)
  exact hanswer.1

/-- **A version denotes one configuration.** Take any history of the row of an engine in which the
row has a version of at least 1 once it is inserted and every change of its payload increases the
version, with valid payloads and queries that succeed. Configurations with the same version are
the same, and a poll that does not write leaves the subscriber with the current configuration, if
and only if no update lowers the version, and the row exists from the start or its configuration
of version 1 is the default one.

**Proof sketch.** The answers for two rows with the same version are the same, for no payload
changed in between. An answer before the row exists has version 1. A poll that does not write
reads a version that is not above the one that was delivered, so it reads the same version. -/
theorem denotes_iff {σ : Type} {db : Program.Handler Call.Answer σ}
    {content : σ → Session Dao.configSchema} {counting : Counting}
    (hdb : ConformsInFull False counting db content)
    (convertJsonToProto : String → Option (EngineConfig α)) (engineId : String) (history : History)
    (hvalid : history.Valid convertJsonToProto) (moments : ℕ → σ)
    (hholds : ∀ i, Holds (content (moments i)).view
      (GetEngineConfigRequest.mk engineId).makeConfigScope (history.stored i)) :
    (Denotes (queriesAt db convertJsonToProto moments)
        (GetEngineConfigRequest.mk engineId).makeConfigScope ∧
      StaysCurrent (queriesAt db convertJsonToProto moments)
        (GetEngineConfigRequest.mk engineId).makeConfigScope) ↔
    history.NeverLowered ∧
      history.AgreesWithDefault convertJsonToProto
        (GetEngineConfigRequest.mk engineId).makeConfigScope := by
  have hquery := queriesAt_eq hdb convertJsonToProto engineId moments hholds
  constructor
  · intro h
    obtain ⟨hdenotes, hcurrent⟩ := h
    exact ⟨neverLowered_of_staysCurrent hquery hvalid hcurrent,
      agreesWithDefault_of_denotes hquery hvalid hdenotes⟩
  · intro h
    obtain ⟨hlower, hdefault⟩ := h
    refine ⟨?_, staysCurrent_of_agrees hquery hvalid hlower hdefault⟩
    intro i j config config' hconfig hconfig' hversion
    rw [hconfig.eq, hconfig'.eq] at hversion ⊢
    rcases le_total i j with hij | hij
    · exact query_eq_of_version hquery hvalid hlower hdefault hij hversion
    · exact (query_eq_of_version hquery hvalid hlower hdefault hij hversion.symm).symm

/-! ## A history -/

/-- A store with one configuration, or none. -/
def storeOf (scope : ConfigScope) (stored : Option StoredConfig) : Store Dao.configSchema where
  rows name :=
    if name = Dao.EngineConfig.tableName then (stored.map (StoredConfig.row scope)).toList else []
  keyed name table _ := by
    split
    · cases stored <;> simp
    · simp

/-- The store holds the configuration. -/
lemma holds_storeOf (scope : ConfigScope) (stored : Option StoredConfig) :
    Holds (storeOf scope stored) scope stored := by
  cases stored with
  | none => rfl
  | some stored =>
    have hrow : (stored.row scope).satisfies
        [("tenant_id", scope.tenantId), ("engine_id", scope.engineId)] = true := by
      simp [Row.satisfies, StoredConfig.row, Row.ofValues, List.lookup]
    simp [Holds, Store.select, storeOf, hrow]

/-- A row that is inserted after a while, with version 1. -/
def lateRow : History where
  stored i := if i = 0 then none else some ⟨1, "payload", by norm_num⟩
  kept i hi := rfl
  positive i row hrow := by
    split at hrow
    · cases hrow
    · cases hrow
      exact le_rfl
  increases i row row' hrow hrow' hne := by
    split at hrow
    · cases hrow
    · cases hrow
      cases hrow'
      exact absurd rfl hne

/-- The configuration that is stored in `lateRow`. -/
def lateConfig (_ : String) : Option (EngineConfig ℕ) :=
  some { engineId := "engine", accountId := "account" }

/-- The states of the database along `lateRow`. -/
def lateMoments (i : ℕ) : Session Dao.configSchema :=
  ⟨storeOf ⟨"default", "engine"⟩ (lateRow.stored i), none⟩

/-- The database holds what the history says. -/
lemma holds_lateMoments (i : ℕ) : Holds (lateMoments i).view
    (GetEngineConfigRequest.mk "engine").makeConfigScope (lateRow.stored i) := by
  have hscope : (GetEngineConfigRequest.mk "engine").makeConfigScope = ⟨"default", "engine"⟩ := by
    decide
  rw [hscope]
  exact holds_storeOf _ _

/-- The theorem for this history. -/
theorem denotes_iff_lateRow :
    (Denotes (queriesAt (reference Dao.configSchema) lateConfig lateMoments)
        (GetEngineConfigRequest.mk "engine").makeConfigScope ∧
      StaysCurrent (queriesAt (reference Dao.configSchema) lateConfig lateMoments)
        (GetEngineConfigRequest.mk "engine").makeConfigScope) ↔
    lateRow.NeverLowered ∧
      lateRow.AgreesWithDefault lateConfig (GetEngineConfigRequest.mk "engine").makeConfigScope :=
  denotes_iff (reference_conformsInFull Dao.configSchema) lateConfig "engine" lateRow
    (fun _ _ _ => rfl) lateMoments holds_lateMoments

/-- Before the row is inserted the engine is answered with another configuration of version 1. -/
theorem lateRow_not_denotes :
    ¬(Denotes (queriesAt (reference Dao.configSchema) lateConfig lateMoments)
        (GetEngineConfigRequest.mk "engine").makeConfigScope ∧
      StaysCurrent (queriesAt (reference Dao.configSchema) lateConfig lateMoments)
        (GetEngineConfigRequest.mk "engine").makeConfigScope) := by
  rintro ⟨hdenotes, -⟩
  have hquery := queriesAt_eq (reference_conformsInFull Dao.configSchema) lateConfig "engine"
    lateMoments holds_lateMoments
  have hsame := hdenotes 0 1 _ _ (.get ⟨"engine"⟩ rfl) (.get ⟨"engine"⟩ rfl)
  rw [getEngineConfig_engine, getEngineConfig_engine, hquery, hquery] at hsame
  have hconfigs := hsame (by decide)
  revert hconfigs
  decide

end ConfigService
