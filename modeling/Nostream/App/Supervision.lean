import Nostream.Repositories.EventsTable
import Nostream.Shared.JsonTexts
import Nostream.Shared.Runs
import Nostream.Shared.Slots
import Nostream.Types.Settings

set_option autoImplicit false

namespace Nostream

open Utf16

structure WorkerEnv where
  workerType : JsString
  workerIndex : Option JsString := none
  mirrorIndex : Option JsString := none
  deriving DecidableEq

namespace Supervision

structure Startup where
  workerCount : Option Nat
  count : Option Nat
  cpus : Nat
  mirrors : List Mirror
  paymentsEnabled : Bool
  secret : Option JsString

def Startup.workers (startup : Startup) : Nat :=
  match startup.workerCount, startup.count with
  | some count, _ => count
  | none, some (count + 1) => count + 1
  | none, _ => startup.cpus

structure Primary where
  forked : Nat := 0
  running : List Nat := []
  -- The WeakMap from workers to their variables.
  workers : List (Nat × WorkerEnv) := []
  restarts : List Nat := []
  thrown : Option Thrown := none
  retired : List WorkerEnv := []

namespace Primary

def get (primary : Primary) (worker : Nat) : Option WorkerEnv :=
  (primary.workers.find? fun entry => entry.1 == worker).map Prod.snd

def createWorker (primary : Primary) (env : WorkerEnv) : Primary :=
  { primary with
    forked := primary.forked + 1
    running := primary.running ++ [primary.forked]
    workers := primary.workers ++ [(primary.forked, env)] }

end Primary

def clientWorker (i : Nat) : WorkerEnv :=
  { workerType := js "worker", workerIndex := some (Json.integer i) }

def maintenance : WorkerEnv := { workerType := js "maintenance" }

def staticMirroring (i : Nat) : WorkerEnv :=
  { workerType := js "static-mirroring", mirrorIndex := some (Json.integer i) }

def roster (startup : Startup) : List WorkerEnv :=
  (List.range startup.workers).map clientWorker ++ maintenance ::
    (List.range startup.mirrors.length).map staticMirroring

-- App.run; without a secret of its own a relay that asks for payments exits.
def run (startup : Startup) : Option Primary :=
  if startup.paymentsEnabled ∧ startup.secret.all fun secret => secret = [] ∨ secret = js "changeme" then none
  else
    let clients := ((List.range startup.workers).map clientWorker).foldl Primary.createWorker {}
    let withMaintenance := clients.createWorker maintenance
    some (((List.range startup.mirrors.length).map staticMirroring).foldl Primary.createWorker withMaintenance)

inductive Action where
  | exit (worker : Nat) (code : Option Int) (signal : Option JsString)
  | restart (i : Nat)
  -- The garbage collector takes a worker that nothing refers to.
  | collect (worker : Nat)

def mistakes : Thrown := .error "Mistakes were made"

def onClusterExit (primary : Primary) (worker : Nat) (code : Option Int) (signal : Option JsString) : Primary :=
  let left := { primary with running := primary.running.erase worker }
  if code = some 0 ∨ signal = some (js "SIGINT") then
    { left with retired := primary.retired ++ (primary.get worker).toList }
  else { left with restarts := primary.restarts ++ [worker] }

def onRestart (primary : Primary) (i : Nat) (deadWorker : Nat) : Primary :=
  let fired := { primary with restarts := primary.restarts.eraseIdx i }
  match primary.get deadWorker with
  | none => { fired with thrown := some mistakes }
  | some workerEnv => fired.createWorker workerEnv

def step (primary : Primary) : Action → Option Primary
  | .exit worker code signal =>
    if worker ∈ primary.running then some (onClusterExit primary worker code signal) else none
  | .restart i => primary.restarts[i]?.map fun deadWorker => onRestart primary i deadWorker
  | .collect worker =>
    if worker ∈ primary.running ∨ worker ∈ primary.restarts then none
    else some { primary with workers := primary.workers.filter fun entry => entry.1 != worker }

inductive Runner where
  | worker
  | maintenance
  | staticMirroring
  deriving DecidableEq

def getRunner (env : WorkerEnv) : Except Thrown Runner :=
  if env.workerType = js "worker" then .ok .worker
  else if env.workerType = js "maintenance" then .ok .maintenance
  else if env.workerType = js "static-mirroring" then .ok .staticMirroring
  else .error (.error ("Unknown worker: " ++ String.ofList (decode env.workerType)))

-- ramda's path with the index as text, into the array of mirrors.
def mirrorAt (mirrors : List Mirror) (index : JsString) : Option Mirror :=
  (mirrors.zipIdx.find? fun entry => Json.integer entry.2 = index).map Prod.fst

open Slots Runs

def held (primary : Primary) : List (Option WorkerEnv) :=
  (primary.running ++ primary.restarts).map primary.get ++ primary.retired.map some

structure Accounted (envs : List WorkerEnv) (primary : Primary) : Prop where
  unthrown : primary.thrown = none
  ids : ∀ worker ∈ primary.running ++ primary.restarts, worker < primary.forked
  keys : ∀ entry ∈ primary.workers, entry.1 < primary.forked
  distinct : (primary.running ++ primary.restarts).Nodup
  held : (held primary).Perm (envs.map some)

theorem get_createWorker (primary : Primary) (env : WorkerEnv) (worker : Nat) (old : worker < primary.forked) :
    (primary.createWorker env).get worker = primary.get worker := by
  have other : (primary.forked == worker) = false := by simpa using old.ne'
  simp [Primary.createWorker, Primary.get, List.find?_append, other]

theorem get_createWorker_self (primary : Primary) (env : WorkerEnv)
    (keys : ∀ entry ∈ primary.workers, entry.1 < primary.forked) :
    (primary.createWorker env).get primary.forked = some env := by
  have fresh : (primary.workers.find? fun entry => entry.1 == primary.forked) = none :=
    List.find?_eq_none.mpr fun entry member => by simpa using (keys entry member).ne
  simp [Primary.createWorker, Primary.get, List.find?_append, fresh]

theorem createWorker_accounted (envs : List WorkerEnv) (primary : Primary) (accounted : Accounted envs primary)
    (env : WorkerEnv) : Accounted (envs ++ [env]) (primary.createWorker env) := by
  obtain ⟨unthrown, ids, keys, distinct, whole⟩ := accounted
  have fresh : primary.forked ∉ primary.running ++ primary.restarts := fun member => lt_irrefl _ (ids _ member)
  have moved : (primary.running ++ [primary.forked] ++ primary.restarts).Perm
      (primary.forked :: (primary.running ++ primary.restarts)) := by
    simp [List.perm_middle]
  refine ⟨unthrown, fun worker member => ?_, fun entry member => ?_, ?_, ?_⟩
  · rcases List.mem_cons.mp (moved.mem_iff.mp member) with rfl | old
    · exact Nat.lt_succ_self _
    · exact (ids worker old).trans (Nat.lt_succ_self _)
  · rcases List.mem_append.mp member with old | new
    · exact (keys entry old).trans (Nat.lt_succ_self _)
    · rw [List.mem_singleton.mp new]
      exact Nat.lt_succ_self _
  · exact moved.nodup_iff.mpr (List.nodup_cons.mpr ⟨fresh, distinct⟩)
  · have same : (primary.running ++ primary.restarts).map (primary.createWorker env).get =
        (primary.running ++ primary.restarts).map primary.get :=
      List.map_congr_left fun worker member => get_createWorker primary env worker (ids worker member)
    have rearranged := ((moved.map (primary.createWorker env).get).append_right (primary.retired.map some))
    rw [List.map_cons, get_createWorker_self primary env keys, same, List.cons_append] at rearranged
    refine rearranged.trans ((whole.cons (some env)).trans ?_)
    rw [List.map_append]
    exact (List.perm_append_singleton _ _).symm

theorem accounted_perm (envs others : List WorkerEnv) (primary : Primary) (same : envs.Perm others)
    (accounted : Accounted envs primary) : Accounted others primary :=
  { accounted with held := accounted.held.trans (same.map some) }

theorem get_some (envs : List WorkerEnv) (primary : Primary) (accounted : Accounted envs primary) (worker : Nat)
    (member : worker ∈ primary.running ++ primary.restarts) : ∃ env ∈ envs, primary.get worker = some env := by
  have inHeld : primary.get worker ∈ held primary := List.mem_append_left _ (List.mem_map_of_mem member)
  obtain ⟨env, inEnvs, known⟩ := List.mem_map.mp (accounted.held.mem_iff.mp inHeld)
  exact ⟨env, inEnvs, known.symm⟩

theorem exit_accounted (envs : List WorkerEnv) (primary : Primary) (accounted : Accounted envs primary) (worker : Nat)
    (code : Option Int) (signal : Option JsString) (isRunning : worker ∈ primary.running) :
    Accounted envs (onClusterExit primary worker code signal) := by
  obtain ⟨env, _, known⟩ := get_some envs primary accounted worker (List.mem_append_left _ isRunning)
  obtain ⟨unthrown, ids, keys, distinct, whole⟩ := accounted
  have taken := List.perm_cons_erase isRunning
  unfold onClusterExit
  dsimp only
  split
  · have fewer : (primary.running ++ primary.restarts).Perm
        (worker :: (primary.running.erase worker ++ primary.restarts)) := taken.append_right _
    have left (other : Nat) (member : other ∈ primary.running.erase worker ++ primary.restarts) :
        other ∈ primary.running ++ primary.restarts := fewer.mem_iff.mpr (List.mem_cons_of_mem _ member)
    refine ⟨unthrown, fun other member => ids other (left other member), keys,
      (List.nodup_cons.mp (fewer.nodup_iff.mp distinct)).2, ?_⟩
    have rearranged := (fewer.map primary.get).append_right (primary.retired.map some)
    rw [List.map_cons, known] at rearranged
    refine List.Perm.trans ?_ (rearranged.symm.trans whole)
    have retired : (primary.retired ++ [env]).map some = primary.retired.map some ++ [some env] := List.map_append
    rw [known, held, Option.toList_some, retired, ← List.append_assoc]
    exact List.perm_append_singleton _ _
  · have same : (primary.running ++ primary.restarts).Perm
        (primary.running.erase worker ++ (primary.restarts ++ [worker])) := by
      refine (taken.append_right _).trans ?_
      rw [← List.append_assoc]
      exact (List.perm_append_singleton _ _).symm
    exact ⟨unthrown, fun other member => ids other (same.mem_iff.mpr member), keys, same.nodup_iff.mp distinct,
      ((same.map primary.get).symm.append_right _).trans whole⟩

theorem restart_accounted (envs : List WorkerEnv) (primary : Primary) (accounted : Accounted envs primary) (i : Nat)
    (deadWorker : Nat) (found : primary.restarts[i]? = some deadWorker) :
    Accounted envs (onRestart primary i deadWorker) := by
  obtain ⟨env, inEnvs, known⟩ := get_some envs primary accounted deadWorker
    (List.mem_append_right _ (List.mem_of_getElem? found))
  obtain ⟨unthrown, ids, keys, distinct, whole⟩ := accounted
  obtain ⟨inside, isDead⟩ := List.getElem?_eq_some_iff.mp found
  have taken : (primary.running ++ primary.restarts).Perm
      (deadWorker :: (primary.running ++ primary.restarts.eraseIdx i)) := by
    refine List.Perm.trans ?_ List.perm_middle
    exact (isDead ▸ (List.getElem_cons_eraseIdx_perm inside).symm).append_left _
  have fired : Accounted (envs.erase env) { primary with restarts := primary.restarts.eraseIdx i } := by
    refine ⟨unthrown, fun other member => ids other (taken.mem_iff.mpr (List.mem_cons_of_mem _ member)), keys,
      (List.nodup_cons.mp (taken.nodup_iff.mp distinct)).2, ?_⟩
    have rearranged := (taken.map primary.get).append_right (primary.retired.map some)
    rw [List.map_cons, known] at rearranged
    exact List.Perm.cons_inv (rearranged.symm.trans (whole.trans ((List.perm_cons_erase inEnvs).map some)))
  have restarted := createWorker_accounted _ _ fired env
  unfold onRestart
  rw [known]
  exact accounted_perm _ envs _ ((List.perm_append_singleton _ _).trans (List.perm_cons_erase inEnvs).symm) restarted

theorem collect_accounted (envs : List WorkerEnv) (primary : Primary) (accounted : Accounted envs primary) (worker : Nat)
    (unreachable : ¬ (worker ∈ primary.running ∨ worker ∈ primary.restarts)) :
    Accounted envs { primary with workers := primary.workers.filter fun entry => entry.1 != worker } := by
  obtain ⟨unthrown, ids, keys, distinct, whole⟩ := accounted
  have same (other : Nat) (member : other ∈ primary.running ++ primary.restarts) :
      Primary.get { primary with workers := primary.workers.filter fun entry => entry.1 != worker } other =
        primary.get other := by
    have different : other ≠ worker := by
      rintro rfl
      exact unreachable (List.mem_append.mp member)
    rw [Primary.get, Primary.get, List.find?_filter]
    congr 1
    refine List.find?_congr fun entry _ => ?_
    by_cases isOther : entry.1 = other <;> simp [isOther, different]
  refine ⟨unthrown, ids, fun entry member => keys entry (List.mem_of_mem_filter member), distinct, ?_⟩
  rw [held, List.map_congr_left same]
  exact whole

theorem step_accounted (envs : List WorkerEnv) : Preserves step (fun _ _ => True) (Accounted envs) := by
  intro primary action reached accounted _ taken
  cases action with
  | exit worker code signal =>
    simp only [step] at taken
    split at taken
    next isRunning =>
      cases taken
      exact exit_accounted envs primary accounted worker code signal isRunning
    next => cases taken
  | restart i =>
    obtain ⟨deadWorker, found, rfl⟩ := Option.map_eq_some_iff.mp taken
    exact restart_accounted envs primary accounted i deadWorker found
  | collect worker =>
    simp only [step] at taken
    split at taken
    next => cases taken
    next unreachable =>
      cases taken
      exact collect_accounted envs primary accounted worker unreachable

theorem foldl_accounted (envs others : List WorkerEnv) (primary : Primary) (accounted : Accounted others primary) :
    Accounted (others ++ envs) (envs.foldl Primary.createWorker primary) := by
  induction envs generalizing others primary with
  | nil => simpa using accounted
  | cons env rest ih =>
    have next := ih (others ++ [env]) _ (createWorker_accounted others primary accounted env)
    simpa using next

theorem run_accounted (startup : Startup) (started : Primary) (isRun : run startup = some started) :
    Accounted (roster startup) started := by
  have initial : Accounted [] {} := ⟨rfl, by simp, by simp, by simp, by simp [held]⟩
  have clients := foldl_accounted ((List.range startup.workers).map clientWorker) [] {} initial
  have withMaintenance := createWorker_accounted _ _ clients maintenance
  have mirrors := foldl_accounted ((List.range startup.mirrors.length).map staticMirroring) _ _ withMaintenance
  unfold run at isRun
  split at isRun
  · cases isRun
  · cases isRun
    simpa [roster] using mirrors

theorem clientWorker_injective : Function.Injective clientWorker := by
  intro i j same
  have texts := congrArg WorkerEnv.workerIndex same
  simpa [clientWorker, Json.integer_injective.eq_iff] using texts

theorem staticMirroring_injective : Function.Injective staticMirroring := by
  intro i j same
  have texts := congrArg WorkerEnv.mirrorIndex same
  simpa [staticMirroring, Json.integer_injective.eq_iff] using texts

theorem roster_nodup (startup : Startup) : (roster startup).Nodup := by
  have differ (i j : Nat) : clientWorker i ≠ staticMirroring j ∧ clientWorker i ≠ maintenance ∧
      staticMirroring j ≠ maintenance := by
    refine ⟨fun same => ?_, fun same => ?_, fun same => ?_⟩
    · cases congrArg WorkerEnv.workerIndex same
    · cases congrArg WorkerEnv.workerIndex same
    · cases congrArg WorkerEnv.mirrorIndex same
  rw [roster, List.nodup_append, List.nodup_cons]
  refine ⟨List.nodup_range.map clientWorker_injective, ⟨?_, List.nodup_range.map staticMirroring_injective⟩, ?_⟩
  · rintro member
    obtain ⟨j, _, same⟩ := List.mem_map.mp member
    exact (differ 0 j).2.2 same
  · rintro env isClient other isOther rfl
    obtain ⟨i, _, rfl⟩ := List.mem_map.mp isClient
    rcases List.mem_cons.mp isOther with same | isMirror
    · exact (differ i 0).2.1 same
    · obtain ⟨j, _, same⟩ := List.mem_map.mp isMirror
      exact (differ i j).1 same.symm

inductive Finds (startup : Startup) (env : WorkerEnv) : Prop
  | client (runner : getRunner env = .ok .worker)
  | maintenance (runner : getRunner env = .ok .maintenance)
  | mirror (runner : getRunner env = .ok .staticMirroring) (index : JsString) (isIndex : env.mirrorIndex = some index)
      (mirror : Mirror) (inSettings : mirrorAt startup.mirrors index = some mirror)

theorem mirrorAt_integer (mirrors : List Mirror) (i : Nat) (inside : i < mirrors.length) :
    mirrorAt mirrors (Json.integer i) = some mirrors[i] := by
  have isIndex (entry : Mirror × Nat) : decide (Json.integer entry.2 = Json.integer i) = true ↔ entry.2 = i := by
    rw [decide_eq_true_iff, Json.integer_injective.eq_iff, Nat.cast_inj]
  have listed : (mirrors[i], i) ∈ mirrors.zipIdx := List.mem_zipIdx_iff_getElem?.mpr (List.getElem?_eq_getElem inside)
  unfold mirrorAt
  cases found : mirrors.zipIdx.find? fun entry => decide (Json.integer entry.2 = Json.integer i) with
  | none => exact absurd ((isIndex _).mpr rfl) (List.find?_eq_none.mp found _ listed)
  | some entry =>
    have atIndex := (isIndex entry).mp (List.find?_eq_some_iff_append.mp found).1
    have isMirror := List.mem_zipIdx_iff_getElem?.mp (List.mem_of_find?_eq_some found : (entry.1, entry.2) ∈ _)
    rw [atIndex, List.getElem?_eq_getElem inside] at isMirror
    exact isMirror.symm

theorem roster_finds (startup : Startup) (env : WorkerEnv) (member : env ∈ roster startup) : Finds startup env := by
  have different : js "maintenance" ≠ js "worker" ∧ js "static-mirroring" ≠ js "worker" ∧
      js "static-mirroring" ≠ js "maintenance" := by decide
  rcases List.mem_append.mp member with isClient | isOther
  · obtain ⟨i, _, rfl⟩ := List.mem_map.mp isClient
    exact .client (if_pos rfl)
  · rcases List.mem_cons.mp isOther with rfl | isMirror
    · exact .maintenance ((if_neg different.1).trans (if_pos rfl))
    · obtain ⟨i, inRange, rfl⟩ := List.mem_map.mp isMirror
      have inside := List.mem_range.mp inRange
      have runner : getRunner (staticMirroring i) = .ok .staticMirroring :=
        (if_neg different.2.1).trans ((if_neg different.2.2).trans (if_pos rfl))
      exact .mirror runner (Json.integer i) rfl startup.mirrors[i] (mirrorAt_integer startup.mirrors i inside)

structure Supervised (startup : Startup) (primary : Primary) : Prop where
  unthrown : primary.thrown = none
  tasks : (held primary).Perm ((roster startup).map some)
  single : (held primary).Nodup
  found : ∀ worker ∈ primary.running ++ primary.restarts, ∃ env ∈ roster startup,
    primary.get worker = some env ∧ Finds startup env

theorem workers_supervised (startup : Startup) (started : Primary) (isRun : run startup = some started)
    (trace : List Action) (final : Primary) (ran : Run step (fun _ _ => True) started trace final) :
    Supervised startup final := by
  have accounted := ran.invariant (step_accounted (roster startup)) (run_accounted startup started isRun)
  refine ⟨accounted.unthrown, accounted.held, ?_, fun worker member => ?_⟩
  · exact accounted.held.nodup_iff.mpr ((roster_nodup startup).map (Option.some_injective _))
  · obtain ⟨env, inRoster, known⟩ := get_some (roster startup) final accounted worker member
    exact ⟨env, inRoster, known, roster_finds startup env inRoster⟩

def twoWorkers : Startup :=
  { workerCount := none, count := some 2, cpus := 4, mirrors := [{ address := js "wss://mirrored" }],
    paymentsEnabled := false, secret := none }

def crashes : List Action :=
  [.exit 0 (some 1) none, .exit 3 none (some (js "SIGKILL")), .exit 1 (some 0) none, .collect 1, .restart 1, .restart 0]

theorem crashed_workers_supervised :
    ∃ started final, run twoWorkers = some started ∧ Run step (fun _ _ => True) started crashes final ∧
      final.running.map final.get = [some maintenance, some (staticMirroring 0), some (clientWorker 0)] ∧
      Supervised twoWorkers final := by
  have ran : ((run twoWorkers).bind fun started => (Runs.execute step (fun _ _ => True) started crashes)).map
      (fun final => final.running.map final.get) =
        some [some maintenance, some (staticMirroring 0), some (clientWorker 0)] := by decide +kernel
  obtain ⟨final, executed, running⟩ := Option.map_eq_some_iff.mp ran
  obtain ⟨started, isRun, trace⟩ := Option.bind_eq_some_iff.mp executed
  have run := run_of_execute trace
  exact ⟨started, final, isRun, run, running, workers_supervised twoWorkers started isRun crashes final run⟩

end Supervision

end Nostream
