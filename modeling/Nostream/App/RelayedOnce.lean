import Nostream.App.BroadcastReach
import Nostream.Handlers.AnnouncedOnce

set_option autoImplicit false

namespace Nostream.RelayedOnce

open Utf16 Effects SubmissionStages SubmissionPool SettledEvents AnnouncedOnce BroadcastReach Cluster Slots
open Runs hiding execute

def pool (cluster : Cluster) : Pool :=
  { table := cluster.table
    submissions := cluster.submissions.map ClientSubmission.submission }

def relayedOf (cluster : Cluster) (m : Nat) : List Event :=
  (cluster.mirrors[m]?.map MirrorClient.relayed).getD []

def hasId (event sent : Event) : Bool := sent.id == event.id

def isRelayable (event : Event) (address : JsString) (broadcast : BroadcastMessage) : Bool :=
  hasId event broadcast.event && broadcast.source ≠ some address

def hasAnnounced (event : Event) (handled : ClientSubmission) : Bool :=
  handled.isEmitted && (hasId event handled.submission.event && announces handled.submission)

structure Contained (event : Event) (m : Nat) (address : JsString) (cluster : Cluster) : Prop where
  announced : Announced event (pool cluster)
  mirrored : (cluster.mirrors[m]?.map fun mirror => mirror.mirroring.config.address) = some address
  underway : cluster.hub.All fun broadcast =>
    isRelayable event address broadcast = true → SameSignedFields broadcast.event event
  relayed : ∀ sent ∈ relayedOf cluster m, sent.id = event.id → SameSignedFields sent event
  bounded : (relayedOf cluster m).countP (hasId event) +
    cluster.hub.owed (.mirror m) (isRelayable event address) ≤ cluster.submissions.countP (hasAnnounced event)

-- Ids determine the signed fields, and the event comes from no other mirrored relay.
def Expected (event : Event) (m : Nat) : Cluster.Action → Prop
  | .submit _ _ received => received.id = event.id → SameSignedFields received event
  | .ingest k _ (.event _ received) => k ≠ m → received.id ≠ event.id
  | _ => True

theorem contained_once (event : Event) (m : Nat) (address : JsString) (cluster : Cluster)
    (contained : Contained event m address cluster) : (relayedOf cluster m).countP (hasId event) ≤ 1 := by
  have once := contained.announced.once
  rw [pool, List.countP_map] at once
  have fewer : cluster.submissions.countP (hasAnnounced event) ≤ cluster.submissions.countP
      ((fun submission => submission.event.id == event.id && announces submission) ∘
        ClientSubmission.submission) := by
    apply List.countP_mono_left
    intro handled _ announced
    exact (Bool.and_eq_true _ _ ▸ announced).2
  have bounded := contained.bounded
  omega

section Emit

variable (cluster : Cluster) (i : Nat) (handled : ClientSubmission) (client : Client) (outputs : Outputs)

theorem emit_pool (found : cluster.submissions[i]? = some handled) :
    pool (cluster.emit i handled client outputs) = pool cluster := by
  refine emit_induction cluster (fun reached => pool reached = pool cluster) i handled client outputs ?_ ?_
  · have same := map_set_self found { handled with
      isEmitted := true
      isPublished := client.adapter.isAttached && !outputs.broadcasts.isEmpty } ClientSubmission.submission rfl
    simp only [pool, Cluster.answer, same]
  · exact fun reached same event _ => same

theorem emit_mirrors : (cluster.emit i handled client outputs).mirrors = cluster.mirrors := by
  refine emit_induction cluster (fun reached => reached.mirrors = cluster.mirrors) i handled client outputs rfl ?_
  exact fun reached same event _ => same

theorem emit_announced (event : Event) (found : cluster.submissions[i]? = some handled)
    (fresh : handled.isEmitted = false) :
    (cluster.emit i handled client outputs).submissions.countP (hasAnnounced event) =
      cluster.submissions.countP (hasAnnounced event) +
        if hasId event handled.submission.event && announces handled.submission then 1 else 0 := by
  refine emit_induction cluster (fun reached => reached.submissions.countP (hasAnnounced event) = _) i handled
    client outputs ?_ fun reached same event _ => same
  have counted := countP_set found { handled with
    isEmitted := true
    isPublished := client.adapter.isAttached && !outputs.broadcasts.isEmpty } (hasAnnounced event)
  simpa [hasAnnounced, fresh, Cluster.answer] using counted

theorem broadcasts_owed (event : Event) (m : Nat) (address : JsString) (broadcasts : List Event)
    (reached : Cluster) :
    (broadcasts.foldl (fun reached event => reached.emitBroadcast client event) reached).hub.owed (.mirror m)
        (isRelayable event address) ≤
      reached.hub.owed (.mirror m) (isRelayable event address) + broadcasts.countP (hasId event) := by
  induction broadcasts generalizing reached with
  | nil => exact le_rfl
  | cons first rest ih =>
    have tail := ih (reached.emitBroadcast client first)
    have head : (reached.emitBroadcast client first).hub.owed (.mirror m) (isRelayable event address) ≤
        reached.hub.owed (.mirror m) (isRelayable event address) + if hasId event first then 1 else 0 := by
      unfold emitBroadcast
      split
      next =>
        have posted := Hub.owed_post reached.hub (.worker client.worker) (.mirror m)
          { number := reached.issued.length, event := first } (isRelayable event address)
        have counted : (decide (Process.worker client.worker ≠ .mirror m) &&
            isRelayable event address { number := reached.issued.length, event := first }) =
              hasId event first := by
          simp [isRelayable]
        rw [counted] at posted
        exact posted.le
      next => exact Nat.le_add_right _ _
    rw [List.foldl_cons, List.countP_cons]
    omega

end Emit

theorem ingest_succeeds (cluster : Cluster) (k : Nat) (mirror : MirrorClient) (fates : Fates)
    (message : OutgoingMessage) : Succeeds cluster.table (cluster.ingest k mirror fates message).table := by
  let worker := { mirror.mirroring with repository := eventRepository fates, expiryClock := cluster.now }
  have same : (cluster.ingest k mirror fates message).table =
      ((worker.onMessage message).run { table := cluster.table }).2.table := by
    refine List.foldlRecOn (motive := fun reached : Cluster =>
      reached.table = ((worker.onMessage message).run { table := cluster.table }).2.table) _ _ rfl ?_
    exact fun reached same event _ => same
  rw [same]
  rcases worker.onMessage_writes message { table := cluster.table } with unchanged | ⟨event, created⟩
  · rw [unchanged]
    exact succeeds_self cluster.table
  · rw [created]
    exact create_succeeds fates.insert event cluster.table

theorem announced_succeeds (event : Event) (pool : Pool) (after : EventsTable)
    (succeeds : Succeeds pool.table after) (inv : Announced event pool) :
    Announced event { pool with table := after } := by
  refine ⟨inv.own, inv.same, inv.answered, fun submission member own announced => ?_, inv.once⟩
  exact settled_succeeds event pool.table after (inv.settled submission member own announced) succeeds

theorem ingest_quiet (event received : Event) (m k : Nat) (address : JsString) (mirror : MirrorClient)
    (own : k = m → mirror.mirroring.config.address = address) (other : k ≠ m → received.id ≠ event.id)
    (number : Nat) : isRelayable event address
      { number := number
        event := addExpirationMetadata received
        source := some mirror.mirroring.config.address } = false := by
  obtain ⟨_, shape⟩ := addExpirationMetadata_eq received
  rw [isRelayable, Bool.and_eq_false_iff]
  by_cases same : k = m
  · exact .inr (by simp [own same])
  · left
    rw [hasId, shape]
    simpa using other same

theorem ingest_contained (event : Event) (m : Nat) (address : JsString) (cluster : Cluster) (k : Nat)
    (mirror : MirrorClient) (fates : Fates) (message : OutgoingMessage)
    (found : cluster.mirrors[k]? = some mirror) (expected : Expected event m (.ingest k fates message))
    (contained : Contained event m address cluster) :
    Contained event m address (cluster.ingest k mirror fates message) := by
  have own (same : k = m) : mirror.mirroring.config.address = address := by
    have mirrored := contained.mirrored
    rw [← same, found, Option.map_some, Option.some.injEq] at mirrored
    exact mirrored
  have succeeds := ingest_succeeds cluster k mirror fates message
  generalize reachedTable : (cluster.ingest k mirror fates message).table = table at succeeds
  have framed : Contained event m address { cluster.ingest k mirror fates message with table := table } := by
    refine ingest_induction cluster (fun reached => Contained event m address { reached with table := table })
      k mirror fates message (fun _ => ?_) ?_
    · exact ⟨announced_succeeds event (pool cluster) table succeeds contained.announced, contained.mirrored,
        contained.underway, contained.relayed, contained.bounded⟩
    · intro reached holds subscriptionId received isMessage _
      subst isMessage
      have quiet := ingest_quiet event received m k address mirror own expected reached.issued.length
      have posted := Hub.owed_post reached.hub (.mirror k) (.mirror m)
        { number := reached.issued.length
          event := addExpirationMetadata received
          source := some mirror.mirroring.config.address } (isRelayable event address)
      rw [quiet, Bool.and_false, if_neg (by simp), Nat.add_zero] at posted
      refine ⟨holds.announced, holds.mirrored, ?_, holds.relayed, posted ▸ holds.bounded⟩
      apply Hub.all_post reached.hub _ _ holds.underway
      rw [quiet]
      exact fun relayable => by cases relayable
  rwa [← reachedTable] at framed

theorem announced_few (event : Event) (pool : Pool) (submission : Submission) (outputs : Outputs)
    (inv : Announced event pool) (member : submission ∈ pool.submissions)
    (stage : submission.stage = .finished outputs) :
    outputs.broadcasts.countP (hasId event) ≤
      if hasId event submission.event && announces submission then 1 else 0 := by
  cases outgoing : outputs.broadcasts with
  | nil => exact Nat.zero_le _
  | cons first rest =>
    have own := inv.own submission member outputs stage
    rw [outgoing] at own
    cases same : hasId event submission.event with
    | false =>
      have none : (first :: rest).countP (hasId event) = 0 := by
        rw [List.countP_eq_zero]
        intro sent isSent
        rw [own sent isSent, same]
        simp
      rw [none]
      exact Nat.zero_le _
    | true =>
      obtain ⟨_, answers, _⟩ := inv.answered submission member (by simpa [hasId] using same) outputs stage
      have announced : announces submission = true := by simp [announces, stage, outgoing]
      rw [announced, Bool.and_self, if_pos rfl]
      exact List.countP_le_length.trans (outgoing ▸ answers.single)

theorem emit_contained (event : Event) (m : Nat) (address : JsString) (cluster : Cluster) (i : Nat)
    (handled : ClientSubmission) (client : Client) (outputs : Outputs)
    (found : cluster.submissions[i]? = some handled) (fresh : handled.isEmitted = false)
    (stage : handled.submission.stage = .finished outputs) (contained : Contained event m address cluster) :
    Contained event m address (cluster.emit i handled client outputs) := by
  have member : handled.submission ∈ (pool cluster).submissions :=
    List.mem_map_of_mem (List.mem_of_getElem? found)
  have own := contained.announced.own handled.submission member outputs stage
  have mirrors := emit_mirrors cluster i handled client outputs
  have relayed : relayedOf (cluster.emit i handled client outputs) m = relayedOf cluster m := by
    rw [relayedOf, mirrors, relayedOf]
  constructor
  · rw [emit_pool cluster i handled client outputs found]
    exact contained.announced
  · rw [mirrors]
    exact contained.mirrored
  · refine emit_induction cluster (fun reached => reached.hub.All fun broadcast =>
      isRelayable event address broadcast = true → SameSignedFields broadcast.event event) i handled client
      outputs contained.underway ?_
    intro reached holds sent isSent
    apply Hub.all_post _ _ _ holds
    intro relayable
    simp only [isRelayable, hasId, Bool.and_eq_true, beq_iff_eq] at relayable
    rw [own sent isSent] at relayable ⊢
    have announced : announces handled.submission = true := by
      simp [announces, stage, List.ne_nil_of_mem isSent]
    exact contained.announced.same handled.submission member relayable.1 (.inr announced)
  · rw [relayed]
    exact contained.relayed
  · have sent := broadcasts_owed client event m address outputs.broadcasts
      (cluster.answer i handled client outputs)
    have announced := emit_announced cluster i handled client outputs event found fresh
    have bounded := contained.bounded
    have few : outputs.broadcasts.countP (hasId event) ≤
        if hasId event handled.submission.event && announces handled.submission then 1 else 0 :=
      announced_few event (pool cluster) handled.submission outputs contained.announced member stage
    rw [relayed, announced]
    change (cluster.emit i handled client outputs).hub.owed _ _ ≤ cluster.hub.owed _ _ + _ at sent
    omega

theorem relayedOf_mirror (cluster : Cluster) (m : Nat) (mirror : MirrorClient)
    (found : cluster.mirrors[m]? = some mirror) : relayedOf cluster m = mirror.relayed := by
  rw [relayedOf, found]
  rfl

theorem idle_contained (event : Event) (m : Nat) (address : JsString) (cluster : Cluster)
    (hub : Hub Process BroadcastMessage) (mirrors : List MirrorClient) (mirror idle : MirrorClient)
    (found : cluster.mirrors[m]? = some mirror) (isIdle : mirrors[m]? = some idle)
    (mirroring : idle.mirroring = mirror.mirroring) (relayed : idle.relayed = mirror.relayed)
    (underway : hub.All fun broadcast =>
      isRelayable event address broadcast = true → SameSignedFields broadcast.event event)
    (owed : hub.owed (.mirror m) (isRelayable event address) ≤
      cluster.hub.owed (.mirror m) (isRelayable event address))
    (contained : Contained event m address cluster) :
    Contained event m address { cluster with hub := hub, mirrors := mirrors } := by
  have mirrored := contained.mirrored
  have same : relayedOf { cluster with hub := hub, mirrors := mirrors } m = relayedOf cluster m := by
    rw [relayedOf_mirror _ m idle isIdle, relayedOf_mirror cluster m mirror found, relayed]
  refine ⟨contained.announced, ?_, underway, same ▸ contained.relayed, ?_⟩
  · rw [found, Option.map_some, ← mirroring] at mirrored
    rw [isIdle]
    exact mirrored
  · rw [same]
    exact (Nat.add_le_add_left owed _).trans contained.bounded

theorem onMessage_contained (event : Event) (m : Nat) (address : JsString) (cluster : Cluster) (k n : Nat)
    (broadcast : BroadcastMessage) (hub : Hub Process BroadcastMessage)
    (took : cluster.hub.take k = some ((.mirror n, broadcast), hub))
    (contained : Contained event m address cluster) :
    Contained event m address
      { cluster with hub := hub, mirrors := cluster.mirrors.modify n (·.onMessage broadcast) } := by
  obtain ⟨isSame, rest⟩ := Hub.all_take cluster.hub hub k _ _ contained.underway took
  have owed := Hub.owed_take cluster.hub hub k _ _ (.mirror m) took (isRelayable event address)
  have bounded := contained.bounded
  obtain ⟨mirror, found, isAddress⟩ := Option.map_eq_some_iff.mp contained.mirrored
  have relayed := contained.relayed
  rw [relayedOf_mirror cluster m mirror found] at bounded relayed
  by_cases taken : n = m ∧ broadcast.source ≠ some address ∧ mirror.isConnected = true
  · obtain ⟨rfl, foreign, isConnected⟩ := taken
    let reached := { cluster with hub := hub, mirrors := cluster.mirrors.modify n (·.onMessage broadcast) }
    have isReached : reached.mirrors[n]? =
        some { mirror with relayed := mirror.relayed ++ [broadcast.event] } := by
      have passes : mirror.onMessage broadcast =
          { mirror with relayed := mirror.relayed ++ [broadcast.event] } := by
        rw [MirrorClient.onMessage, if_neg (by simp [isAddress, foreign, isConnected])]
      simp [reached, found, passes]
    have after := relayedOf_mirror reached n _ isReached
    have relayable : isRelayable event address broadcast = hasId event broadcast.event := by
      simp [isRelayable, foreign]
    refine ⟨contained.announced, by rw [isReached]; exact congrArg some isAddress, rest, ?_, ?_⟩
    · rw [after]
      intro sent member own
      rcases List.mem_append.mp member with old | new
      · exact relayed sent old own
      · rw [List.mem_singleton.mp new] at own ⊢
        exact isSame (relayable.trans (by simp [hasId, own]))
    · rw [after, List.countP_append, List.countP_singleton]
      rw [decide_eq_true rfl, Bool.true_and, relayable] at owed
      show _ + hub.owed _ _ ≤ cluster.submissions.countP (hasAnnounced event)
      omega
  · have ignored : (cluster.mirrors.modify n (·.onMessage broadcast))[m]? = some mirror := by
      rw [List.getElem?_modify, found]
      split
      next same =>
        have unmoved : mirror.onMessage broadcast = mirror := by
          rw [MirrorClient.onMessage, if_pos]
          by_contra heeded
          rw [not_or, isAddress, Bool.not_eq_false] at heeded
          exact taken ⟨same, heeded⟩
        rw [Option.map_eq_map, Option.map_some, unmoved]
      next => rfl
    exact idle_contained event m address cluster hub _ mirror mirror found ignored rfl rfl rest (by omega)
      contained

theorem contained_preserved (event : Event) (durable : isEphemeralEvent event = false) (m : Nat)
    (address : JsString) (settings : Settings) :
    Preserves (Cluster.step settings) (fun _ action => Expected event m action) (Contained event m address) := by
  intro cluster action reached contained expected taken
  have bounded := contained.bounded
  cases step_cases settings cluster reached action taken with
  | ticked | connected | acted =>
    exact ⟨contained.announced, contained.mirrored, contained.underway, contained.relayed, bounded⟩
  | linked k isConnected =>
    obtain ⟨mirror, found, _⟩ := Option.map_eq_some_iff.mp contained.mirrored
    have isLinked := List.getElem?_modify (fun mirror : MirrorClient => { mirror with isConnected := isConnected })
      k cluster.mirrors m
    rw [found, Option.map_eq_map, Option.map_some] at isLinked
    refine idle_contained event m address cluster cluster.hub _ mirror _ found isLinked ?_ ?_
      contained.underway le_rfl contained
    · split <;> rfl
    · split <;> rfl
  | submitted c handler received bound =>
    have announced := submit_announced event durable (pool cluster) { handler with expiryClock := cluster.now }
      received (fun _ => expected) contained.announced
    refine ⟨?_, contained.mirrored, contained.underway, contained.relayed, ?_⟩
    · simpa [pool] using announced
    · rw [List.countP_append]
      exact bounded.trans (Nat.le_add_right _ _)
  | advanced i fates handled advanced table found moved =>
    have isPooled : (pool cluster).submissions[i]? = some handled.submission := by
      rw [pool, List.getElem?_map, found]
      rfl
    have announced := advance_announced event (pool cluster) i fates handled.submission advanced table isPooled
      moved contained.announced
    have counted := countP_set found { handled with submission := advanced } (hasAnnounced event)
    have quiet := advance_quiet fates handled.submission advanced cluster.table table moved
    refine ⟨?_, contained.mirrored, contained.underway, contained.relayed, bounded.trans ?_⟩
    · simpa [pool, List.map_set] using announced
    · simp only [hasAnnounced, quiet, Bool.and_false, Bool.false_eq_true, if_false, Nat.add_zero] at counted
      exact counted ▸ Nat.le_add_right _ _
  | emitted i handled client outputs found fresh stage isClient =>
    exact emit_contained event m address cluster i handled client outputs found fresh stage contained
  | passed k hub passed =>
    have placed : .mirror m ∈ cluster.processes := by
      obtain ⟨mirror, found, _⟩ := Option.map_eq_some_iff.mp contained.mirrored
      apply List.mem_append_right
      exact List.mem_map_of_mem (List.mem_range.mpr (List.getElem?_eq_some_iff.mp found).1)
    have same := Hub.owed_passOn cluster.processes (processes_nodup cluster) cluster.hub hub k (.mirror m) placed
      passed (isRelayable event address)
    exact ⟨contained.announced, contained.mirrored,
      Hub.all_passOn cluster.processes cluster.hub hub k contained.underway passed, contained.relayed,
      same ▸ bounded⟩
  | heard k worker broadcast hub took =>
    have owed := Hub.owed_take cluster.hub hub k _ _ (.mirror m) took (isRelayable event address)
    have rest := (Hub.all_take cluster.hub hub k _ _ contained.underway took).2
    simp only [reduceCtorEq, decide_false, Bool.false_and, Bool.false_eq_true, if_false, Nat.add_zero] at owed
    exact ⟨contained.announced, contained.mirrored, rest, contained.relayed, owed ▸ bounded⟩
  | relayed k n broadcast hub took =>
    exact onMessage_contained event m address cluster k n broadcast hub took contained
  | ingested k fates message mirror found =>
    exact ingest_contained event m address cluster k mirror fates message found expected contained

end Nostream.RelayedOnce
