/-
This file models how the web server restarts the camera program: `restart_camera_locked` asks the
service script by a number in a file, stops the programs that are too old, and waits for another
one. The script writes down the number that it starts a program for before it starts it, and the
two run side by side. No process id is used twice. What the ready file says is an input.
-/

import Mathlib.Data.List.Basic
import Mathlib.Order.Nat

namespace CameraRestart

open List Function

abbrev Pid := Nat

/-- A camera program, and the request that it was started for. -/
structure Camera where
  pid : Pid
  generation : Nat

/-- Where the loop of the service script is. -/
inductive Launcher
  | idle
  | chosen (generation : Nat)
  | marked (generation : Nat)
  | running (camera : Camera)
  | waiting (generation : Nat)

/-- A request: its number, the processes that it stops, and those that were started before it was
published. -/
structure Restart where
  generation : Nat
  oldPids : List Pid
  earlier : List Pid

/-- How far `restart_camera_locked` is. -/
inductive Client
  | idle
  | captured (oldPids : List Pid)
  | published (restart : Restart)
  | behind (restart : Restart)
  | scanned (restart : Restart) (nowPids : List Pid)
  | stopping (restart : Restart)
  | restarted (restart : Restart) (pid : Pid)

/-- `APP_REQUEST_PATH` and `APP_STARTED_PATH`, the script, the camera programs that it has started,
and the requests. -/
structure State where
  request : Nat
  started : Nat
  launcher : Launcher
  cameras : List Camera
  clients : Nat → Client

inductive Action
  | capture | publish | look | scan | fail
  | kill (pid : Pid)
  | find (pid : Pid)

/-- A step of the script, the end of the camera program, or a step of a request. -/
inductive Event
  | choose | mark | leave | resume
  | start (pid : Pid)
  | client (id : Nat) (action : Action)

def start : State := ⟨0, 0, .idle, [], fun _ => .idle⟩

def State.pids (state : State) : List Pid := state.cameras.map Camera.pid

def State.cameraPids (state : State) : List Pid :=
  match state.launcher with
  | .running camera => [camera.pid]
  | _ => []

/-- The camera program has ended, or was not started, and the script waits for another request. -/
def Launcher.leave : Launcher → Launcher
  | .chosen generation | .marked generation => .waiting generation
  | .running camera => .waiting camera.generation
  | launcher => launcher

/-- One step of `restart_camera_locked`. -/
def State.act (state : State) (id : Nat) (action : Action) : State :=
  let become (client : Client) := { state with clients := Function.update state.clients id client }
  match action, state.clients id with
  | .capture, .idle => become (.captured state.cameraPids)
  | .publish, .captured oldPids =>
    { become (.published ⟨state.request + 1, oldPids, state.pids⟩) with
      request := state.request + 1 }
  | .look, .published restart =>
    become (if state.started < restart.generation then .behind restart else .stopping restart)
  | .scan, .behind restart => become (.scanned restart state.cameraPids)
  | .look, .scanned restart nowPids =>
    become (.stopping
      (if state.started < restart.generation then
        { restart with oldPids := restart.oldPids ++ nowPids }
      else restart))
  | .kill pid, .stopping restart =>
    if pid ∈ restart.oldPids ∧ pid ∈ state.cameraPids then
      { state with launcher := state.launcher.leave }
    else state
  | .find pid, .stopping restart =>
    if pid ∉ restart.oldPids ∧ pid ∈ state.cameraPids then become (.restarted restart pid)
    else state
  | .fail, _ => become .idle
  | _, _ => state

def step (state : State) (event : Event) : State :=
  match event, state.launcher with
  | .choose, .idle => { state with launcher := .chosen state.request }
  | .mark, .chosen generation =>
    { state with started := generation, launcher := .marked generation }
  | .start pid, .marked generation =>
    if pid ∈ state.pids then state
    else
      { state with
        launcher := .running ⟨pid, generation⟩
        cameras := ⟨pid, generation⟩ :: state.cameras }
  | .leave, launcher => { state with launcher := launcher.leave }
  | .resume, .waiting generation =>
    if state.request = generation then state else { state with launcher := .idle }
  | .client id action, _ => state.act id action
  | _, _ => state

def run (events : List Event) : State := events.foldl step start

/-! ### The invariant -/

/-- What a request stops, and what was started before it, was started for an older one. -/
structure Restart.Sound (restart : Restart) (state : State) : Prop where
  known : restart.oldPids ⊆ state.pids ∧ restart.earlier ⊆ state.pids
  older : ∀ camera ∈ state.cameras, camera.pid ∈ restart.oldPids ∨ camera.pid ∈ restart.earlier →
    camera.generation < restart.generation

/-- A camera program from before a request is among the listed ones if it still runs. -/
def Restart.Listed (restart : Restart) (pids : List Pid) (state : State) : Prop :=
  ∀ pid ∈ state.cameraPids, pid ∈ restart.earlier → pid ∈ pids

def Client.Sound (state : State) : Client → Prop
  | .idle => True
  | .captured oldPids => oldPids ⊆ state.pids
  | .published restart | .behind restart => restart.Sound state
  | .scanned restart nowPids =>
    restart.Sound state ∧ nowPids ⊆ state.pids ∧ restart.Listed nowPids state
  | .stopping restart => restart.Sound state ∧ restart.Listed restart.oldPids state
  | .restarted restart pid => restart.Sound state ∧ pid ∈ state.pids ∧ pid ∉ restart.earlier

/-- How the launcher stands to the number that it wrote down. -/
def Launcher.Sound (state : State) : Launcher → Prop
  | .chosen generation => state.started ≤ generation ∧ generation ≤ state.request
  | .marked generation => state.started = generation
  | .running camera => state.started = camera.generation ∧ camera ∈ state.cameras
  | _ => True

structure Sound (state : State) : Prop where
  started : state.started ≤ state.request
  cameras : ∀ camera ∈ state.cameras, camera.generation ≤ state.started
  launcher : state.launcher.Sound state
  clients : ∀ id, (state.clients id).Sound state

/-- The only camera programs that come into being are new ones. -/
structure Grows (state later : State) : Prop where
  pids : state.pids ⊆ later.pids
  cameras : ∀ camera ∈ later.cameras, camera ∈ state.cameras ∨ camera.pid ∉ state.pids
  running : ∀ pid ∈ later.cameraPids, pid ∈ state.cameraPids ∨ pid ∉ state.pids

variable {state later : State}

theorem Restart.Sound.grows {restart : Restart} (sound : restart.Sound state)
    (grows : Grows state later) : restart.Sound later where
  known := ⟨List.Subset.trans sound.known.1 grows.pids, List.Subset.trans sound.known.2 grows.pids⟩
  older camera member old := by
    rcases grows.cameras camera member with before | fresh
    · exact sound.older camera before old
    · exact absurd (old.elim (sound.known.1 ·) (sound.known.2 ·)) fresh

theorem Restart.Listed.grows {restart : Restart} {pids : List Pid}
    (listed : restart.Listed pids state) (sound : restart.Sound state)
    (grows : Grows state later) : restart.Listed pids later := by
  intro pid runs early
  rcases grows.running pid runs with before | fresh
  · exact listed pid before early
  · exact absurd (sound.known.2 early) fresh

theorem Client.Sound.grows {client : Client} (sound : client.Sound state)
    (grows : Grows state later) : client.Sound later := by
  cases client with
  | idle => trivial
  | captured oldPids => exact List.Subset.trans sound grows.pids
  | published restart | behind restart => exact Restart.Sound.grows sound grows
  | scanned restart nowPids =>
    exact ⟨sound.1.grows grows, List.Subset.trans sound.2.1 grows.pids,
      sound.2.2.grows sound.1 grows⟩
  | stopping restart => exact ⟨sound.1.grows grows, sound.2.grows sound.1 grows⟩
  | restarted restart pid => exact ⟨sound.1.grows grows, grows.pids sound.2.1, sound.2.2⟩

theorem grows_of_cameras (same : later.cameras = state.cameras)
    (running : later.cameraPids ⊆ state.cameraPids) : Grows state later where
  pids := by rw [State.pids, State.pids, same]; exact List.Subset.refl _
  cameras _ member := .inl (same ▸ member)
  running _ runs := .inl (running runs)

theorem Sound.moves (sound : Sound state) (grows : Grows state later)
    (clients : later.clients = state.clients) (started : later.started ≤ later.request)
    (cameras : ∀ camera ∈ later.cameras, camera.generation ≤ later.started)
    (launcher : later.launcher.Sound later) : Sound later :=
  ⟨started, cameras, launcher, fun id => by rw [clients]; exact (sound.clients id).grows grows⟩

theorem Sound.becomes (sound : Sound state) {request : Nat} (later : state.request ≤ request)
    (id : Nat) {client : Client} (good : client.Sound state) :
    Sound { state with request, clients := update state.clients id client } := by
  have grows : Grows state { state with request, clients := update state.clients id client } :=
    grows_of_cameras rfl (List.Subset.refl _)
  refine ⟨sound.started.trans later, sound.cameras, ?_, fun other => ?_⟩
  · have launcher := sound.launcher
    revert launcher
    cases state.launcher with
    | chosen generation => exact fun bounds => ⟨bounds.1, bounds.2.trans later⟩
    | idle | marked | running | waiting => exact fun holds => holds
  · show (update state.clients id client other).Sound _
    by_cases same : other = id
    · subst same
      rw [update_self]
      exact good.grows grows
    · rw [update_of_ne same]
      exact (sound.clients other).grows grows

theorem Sound.running (sound : Sound state) {pid : Pid} (runs : pid ∈ state.cameraPids) :
    ∃ camera ∈ state.cameras, camera.pid = pid ∧ state.started = camera.generation := by
  have launcher := sound.launcher
  unfold State.cameraPids at runs
  split at runs
  next camera isRunning =>
    rw [isRunning] at launcher
    exact ⟨camera, launcher.2, (mem_singleton.mp runs).symm, launcher.1⟩
  next => cases runs

theorem Sound.leave (sound : Sound state) :
    Sound { state with launcher := state.launcher.leave } := by
  refine sound.moves (grows_of_cameras rfl ?_) rfl sound.started sound.cameras ?_
  · unfold State.cameraPids Launcher.leave
    cases state.launcher <;> simp
  · cases state.launcher <;> trivial

/-- While a camera program from before a request runs, the number that is written down is older. -/
theorem Sound.listed_of_started (sound : Sound state) {restart : Restart} (pids : List Pid)
    (good : restart.Sound state) (started : ¬ state.started < restart.generation) :
    restart.Listed pids state := by
  intro pid runs early
  obtain ⟨camera, member, rfl, same⟩ := sound.running runs
  exact absurd (same ▸ good.older camera member (.inr early)) started

theorem Sound.act (sound : Sound state) (id : Nat) (action : Action) :
    Sound (state.act id action) := by
  have own := sound.clients id
  have runs : state.cameraPids ⊆ state.pids := by
    intro pid runs
    obtain ⟨camera, member, rfl, -⟩ := sound.running runs
    exact mem_map_of_mem member
  unfold State.act
  split <;> rename_i isClient <;> try rw [isClient] at own
  · exact sound.becomes le_rfl id runs
  · refine sound.becomes (Nat.le_succ _) id ⟨⟨own, List.Subset.refl _⟩, fun camera member _ => ?_⟩
    exact Nat.lt_succ_of_le ((sound.cameras camera member).trans sound.started)
  · refine sound.becomes le_rfl id ?_
    split
    · exact own
    next started => exact ⟨own, sound.listed_of_started _ own started⟩
  · exact sound.becomes le_rfl id ⟨own, runs, fun pid isRunning _ => isRunning⟩
  · obtain ⟨good, known, listed⟩ := own
    refine sound.becomes le_rfl id ?_
    split
    next started =>
      refine ⟨⟨⟨append_subset.mpr ⟨good.known.1, known⟩, good.known.2⟩, ?_⟩, ?_⟩
      · exact fun camera member _ => (sound.cameras camera member).trans_lt started
      · exact fun pid isRunning early => mem_append_right _ (listed pid isRunning early)
    next started => exact ⟨good, sound.listed_of_started _ good started⟩
  · split
    · exact sound.leave
    · exact sound
  · split
    next found =>
      refine sound.becomes le_rfl id ⟨own.1, runs found.2, fun early => ?_⟩
      exact found.1 (own.2 _ found.2 early)
    next => exact sound
  · exact sound.becomes le_rfl id trivial
  · exact sound

theorem Sound.step (sound : Sound state) (event : Event) : Sound (step state event) := by
  have launcher := sound.launcher
  unfold CameraRestart.step
  split <;> rename_i isLauncher <;> try rw [isLauncher] at launcher
  · exact sound.moves (grows_of_cameras rfl (nil_subset _)) rfl sound.started sound.cameras
      ⟨sound.started, le_rfl⟩
  · exact sound.moves (grows_of_cameras rfl (nil_subset _)) rfl launcher.2
      (fun camera member => (sound.cameras camera member).trans launcher.1) rfl
  · split
    · exact sound
    next fresh =>
      refine sound.moves ⟨subset_cons_self _ _, ?_, ?_⟩ rfl sound.started ?_
        ⟨launcher, mem_cons_self⟩
      · rintro camera (_ | ⟨_, member⟩)
        · exact .inr fresh
        · exact .inl member
      · exact fun other isNew => .inr (mem_singleton.mp isNew ▸ fresh)
      · rintro camera (_ | ⟨_, member⟩)
        · exact launcher.ge
        · exact sound.cameras camera member
  · exact sound.leave
  · split
    · exact sound
    · exact sound.moves (grows_of_cameras rfl (nil_subset _)) rfl sound.started sound.cameras
        trivial
  · exact sound.act _ _
  · exact sound

theorem sound_run (events : List Event) : Sound (run events) := by
  refine foldlRecOn events _ ?_ fun state sound event _ => sound.step event
  exact ⟨le_rfl, nofun, trivial, fun _ => trivial⟩

/-! ### Every request -/

/-- Every process that a request stops was started for an older one. -/
def Restart.Spares (restart : Restart) (state : State) : Prop :=
  ∀ camera ∈ state.cameras, camera.pid ∈ restart.oldPids → camera.generation < restart.generation

/-- What a request that stops processes, or that has succeeded, has done: it spares the camera
program that is started for it, and the one that it finds was started after it was published. -/
def Fresh (state : State) : Client → Prop
  | .stopping restart => restart.Spares state
  | .restarted restart pid => restart.Spares state ∧ pid ∈ state.pids ∧ pid ∉ restart.earlier
  | _ => True

theorem restarts_fresh (events : List Event) (id : Nat) :
    Fresh (run events) ((run events).clients id) := by
  have sound := (sound_run events).clients id
  unfold Fresh
  split
  next restart isClient =>
    rw [isClient] at sound
    exact fun camera member old => sound.1.older camera member (.inl old)
  next restart found isClient =>
    rw [isClient] at sound
    exact ⟨fun camera member old => sound.1.older camera member (.inl old), sound.2⟩
  next => trivial

end CameraRestart
