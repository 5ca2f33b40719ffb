import TinyEnvSensor.App.LifeSamples
import TinyEnvSensor.Foundations.Simulation
import TinyEnvSensor.Led.StatusMeaning

/-! # The LEDs over a life

The status thread runs beside the two threads of a life, and each of these is in `PulseGreenOnce`
between the publication of a sample and the snapshot. A thread in a pulse gets no other turn, so a
pulse delays what the thread does next and changes nothing else. -/
namespace TinyEnvSensor
open History Simulation
set_option autoImplicit false

def Turn.thread : Turn → AppThread
  | .main => .main
  | _ => .matter

/-- What a turn is to the LEDs: the part of `Init` that is about them, the call of `PulseGreenOnce`
after a publication, or the reboot of the recovery. -/
def ledEvent (cfg : Config) (l : Life) (t : Turn) (w : World) : Option LedEvent :=
  if l.publishes t then some (.call t.thread)
  else if rebooted l.device (turn cfg t w l).device then some .reset
  else if t = .main ∧ l.main = .startApp ∧ w.prepareServer = none then some .init
  else none

structure Board where
  life : Life
  leds : Leds := {}

inductive BoardEvent where
  | life (e : LifeEvent)
  | status (w : World)
  | pulse (t : AppThread)

/-- A reset may come while the thread whose turn it would cut short is in a pulse. -/
def boardStep (cfg : Config) (b : LedBoard) (s : Board) (e : BoardEvent) : Board :=
  match e with
  | .life (.turn t w) =>
    if s.leds.pulser t.thread = .away then
      { life := lifeStep cfg s.life (.turn t w)
        leds := (ledEvent cfg s.life t w).elim s.leds (ledStep b s.leds) }
    else s
  | .life (.reset causes) =>
    { life := lifeStep cfg s.life (.reset causes), leds := ledStep b s.leds .reset }
  | .life (.cut t w calls cleared causes) =>
    if s.leds.pulser t.thread = .away then
      { life := lifeStep cfg s.life (.cut t w calls cleared causes)
        leds := ledStep b s.leds .reset }
    else { life := lifeStep cfg s.life (.reset causes), leds := ledStep b s.leds .reset }
  | .status w => { s with leds := ledStep b s.leds (.status w) }
  | .pulse t => { s with leds := ledStep b s.leds (.pulse t) }

def board (cfg : Config) (b : LedBoard) (store : Settings) (es : List BoardEvent) : Board :=
  run (boardStep cfg b) { life := unborn store } es

theorem board_concat (cfg : Config) (b : LedBoard) (store : Settings) (es : List BoardEvent)
    (e : BoardEvent) : board cfg b store (es ++ [e]) = boardStep cfg b (board cfg b store es) e :=
  run_concat ..

/-- What is shown on a board is what the LEDs show after some events of theirs. -/
theorem leds_of_board (cfg : Config) (b : LedBoard) (store : Settings) (es : List BoardEvent) :
    ∃ es', (board cfg b store es).leds = leds b es' := by
  induction es using List.reverseRecOn with
  | nil => exact ⟨[], rfl⟩
  | append_singleton es e ih =>
    obtain ⟨es', hleds⟩ := ih
    have hstep : (boardStep cfg b (board cfg b store es) e).leds = leds b es' ∨
        ∃ e', (boardStep cfg b (board cfg b store es) e).leds = ledStep b (leds b es') e' := by
      rw [← hleds]
      cases e with
      | life e =>
        cases e with
        | turn t w =>
          simp only [boardStep]
          split
          · cases ledEvent cfg (board cfg b store es).life t w with
            | none => exact Or.inl rfl
            | some e' => exact Or.inr ⟨e', rfl⟩
          · exact Or.inl rfl
        | reset causes => exact Or.inr ⟨.reset, rfl⟩
        | cut t w calls cleared causes =>
          simp only [boardStep]
          split <;> exact Or.inr ⟨.reset, rfl⟩
      | status w => exact Or.inr ⟨.status w, rfl⟩
      | pulse t => exact Or.inr ⟨.pulse t, rfl⟩
    rw [board_concat]
    obtain hsame | ⟨e', hnext⟩ := hstep
    · exact ⟨es', hsame⟩
    · exact ⟨es' ++ [e'], by rw [hnext, leds_concat]⟩

/-! ## The lives of a board -/

/-- What is left of an event of the board when the LEDs are left out. A thread that a reset finds in
a pulse has no turn that it could cut short. -/
inductive Unlit (s : Board) : LifeEvent → BoardEvent → Prop
  | turn (t : Turn) (w : World) : Unlit s (.turn t w) (.life (.turn t w))
  | reset (causes : UInt32) : Unlit s (.reset causes) (.life (.reset causes))
  | cut (t : Turn) (w : World) (calls : ℕ) (cleared : Bool) (causes : UInt32)
      (haway : s.leds.pulser t.thread = .away) :
      Unlit s (.cut t w calls cleared causes) (.life (.cut t w calls cleared causes))
  | inPulse (t : Turn) (w : World) (calls : ℕ) (cleared : Bool) (causes : UInt32)
      (hin : s.leds.pulser t.thread ≠ .away) :
      Unlit s (.reset causes) (.life (.cut t w calls cleared causes))

/-- An event of the LEDs, or a turn whose thread is in a pulse. -/
def Board.Idle (s : Board) : BoardEvent → Prop
  | .life (.turn t _) => s.leds.pulser t.thread ≠ .away
  | .life _ => False
  | _ => True

def BoardEvent.life? : BoardEvent → Option LifeEvent
  | .life e => some e
  | _ => none

theorem life_shadows (cfg : Config) (b : LedBoard) (store : Settings) :
    Shadows (lifeStep cfg) (unborn store) (fun es l => (board cfg b store es).life = l)
      (fun before => Unlit (board cfg b store before))
      (fun before => (board cfg b store before).Idle) where
  start := rfl
  next es l e h := by
    subst h
    rw [board_concat]
    generalize board cfg b store es = s
    cases e with
    | life e =>
      cases e with
      | turn t w =>
        by_cases haway : s.leds.pulser t.thread = .away
        · exact Or.inr ⟨fun hin => hin haway, _, Unlit.turn t w, by simp [boardStep, haway]⟩
        · exact Or.inl ⟨haway, by simp [boardStep, haway]⟩
      | reset causes => exact Or.inr ⟨id, _, Unlit.reset causes, rfl⟩
      | cut t w calls cleared causes =>
        by_cases haway : s.leds.pulser t.thread = .away
        · exact Or.inr ⟨id, _, Unlit.cut t w calls cleared causes haway,
            by simp [boardStep, haway]⟩
        · exact Or.inr ⟨id, _, Unlit.inPulse t w calls cleared causes haway,
            by simp [boardStep, haway]⟩
    | status w => exact Or.inl ⟨trivial, rfl⟩
    | pulse t => exact Or.inl ⟨trivial, rfl⟩

/-- How many times a thread still goes on in its pulse. -/
def Pulser.left : Pulser → ℕ
  | .away => 0
  | .called => 4
  | .stored => 3
  | .lit => 2
  | .dark => 1

/-- A pulse that is left to itself comes to its end. -/
theorem pulse_ends (cfg : Config) (b : LedBoard) (t : AppThread) (n : ℕ) {s : Board}
    (hleft : (s.leds.pulser t).left = n) :
    let s' := run (boardStep cfg b) s (List.replicate n (.pulse t))
    s'.life = s.life ∧ ∀ t', s'.leds.pulser t' = if t' = t then .away else s.leds.pulser t' := by
  induction n generalizing s with
  | zero =>
    refine ⟨rfl, fun t' => ?_⟩
    split
    · rename_i h
      subst h
      cases hpulser : s.leds.pulser t' <;> simp_all [Pulser.left]
    · rfl
  | succ n ih =>
    have hnext : ((boardStep cfg b s (.pulse t)).leds.pulser t).left = n := by
      simp only [boardStep, ledStep, pulseOn_pulser, if_true]
      cases hpulser : s.leds.pulser t <;> simp_all [Pulser.left, Pulser.next]
    obtain ⟨hlife, hpulser⟩ := ih hnext
    refine ⟨hlife, fun t' => (hpulser t').trans ?_⟩
    by_cases h : t' = t
    · simp [h]
    · simp [h, boardStep, ledStep, pulseOn_pulser]

/-- What a turn does to the LEDs: its thread calls `PulseGreenOnce`, a reboot puts all out, or no
pulse is touched. -/
theorem ledEvent_cases (cfg : Config) (b : LedBoard) (s : Leds) (l : Life) (t : Turn) (w : World) :
    (l.publishes t = true ∧
        (ledEvent cfg l t w).elim s (ledStep b s) = ledStep b s (.call t.thread)) ∨
      (l.publishes t = false ∧ rebooted l.device (turn cfg t w l).device = true ∧
        (ledEvent cfg l t w).elim s (ledStep b s) = {}) ∨
      (l.publishes t = false ∧ rebooted l.device (turn cfg t w l).device = false ∧
        ((ledEvent cfg l t w).elim s (ledStep b s) = ledStep b s .init ∨
          (ledEvent cfg l t w).elim s (ledStep b s) = s)) := by
  unfold ledEvent
  split_ifs with hpublishes hreboot hstart
  · exact Or.inl ⟨hpublishes, rfl⟩
  · exact Or.inr (Or.inl ⟨by simpa using hpublishes, hreboot, rfl⟩)
  · exact Or.inr (Or.inr ⟨by simpa using hpublishes, by simpa using hreboot, Or.inl rfl⟩)
  · exact Or.inr (Or.inr ⟨by simpa using hpublishes, by simpa using hreboot, Or.inr rfl⟩)

theorem pulser_of_init (b : LedBoard) (s : Leds) : (ledStep b s .init).pulser = s.pulser := by
  simp only [ledStep]
  split
  · exact initLeds_pulser b s
  · rfl

theorem pulser_of_call {b : LedBoard} {s : Leds} {t : AppThread} (haway : s.pulser t = .away)
    (t' : AppThread) : (ledStep b s (.call t)).pulser t' =
      if t' = t ∧ b.pulses = true then .called else s.pulser t' := by
  simp only [ledStep, if_pos haway]
  exact pulseGreenOnce_pulser b s t t'

/-- An event of the life, on a board with no pulse, leaves at most one thread in one. -/
theorem step_of_away (cfg : Config) (b : LedBoard) {s : Board}
    (haway : ∀ t, s.leds.pulser t = .away) (e : LifeEvent) :
    ∃ t, (boardStep cfg b s (.life e)).life = lifeStep cfg s.life e ∧
      ∀ t', t' ≠ t → (boardStep cfg b s (.life e)).leds.pulser t' = .away := by
  cases e with
  | turn t w =>
    refine ⟨t.thread, by simp [boardStep, haway], fun t' ht' => ?_⟩
    simp only [boardStep, haway, if_true]
    obtain ⟨-, hcall⟩ | ⟨-, -, hreset⟩ | ⟨-, -, hinit | hsame⟩ :=
      ledEvent_cases cfg b s.leds s.life t w
    · rw [hcall, pulser_of_call (haway _), if_neg fun h => ht' h.1]
      exact haway t'
    · rw [hreset]
    · rw [hinit, pulser_of_init]
      exact haway t'
    · rw [hsame]
      exact haway t'
  | reset causes => exact ⟨.main, rfl, fun _ _ => rfl⟩
  | cut t w calls cleared causes =>
    exact ⟨.main, by simp [boardStep, haway], fun _ _ => by simp [boardStep, haway, ledStep]⟩

/-- **Pulses only delay.** Whatever happens on a board, the life on it is a life without LEDs, with
just those turns left out that come while their thread is in a pulse. And every life is the life on
a board whose threads end their pulses. -/
theorem pulses_only_delay (cfg : Config) (b : LedBoard) (store : Settings) :
    (∀ es, ∃ es', Selects (fun before => Unlit (board cfg b store before))
        (fun before => (board cfg b store before).Idle) es' es ∧
      (board cfg b store es).life = life cfg store es') ∧
    (∀ es', ∃ es, es.filterMap BoardEvent.life? = es' ∧
      (board cfg b store es).life = life cfg store es' ∧
        ∀ t, (board cfg b store es).leds.pulser t = .away) := by
  constructor
  · exact (life_shadows cfg b store).run
  · intro es'
    induction es' using List.reverseRecOn with
    | nil => exact ⟨[], rfl, rfl, fun _ => rfl⟩
    | append_singleton es' e ih =>
      obtain ⟨es, hplain, hlife, haway⟩ := ih
      obtain ⟨t, hstepped, hothers⟩ := step_of_away cfg b haway e
      obtain ⟨hsame, hends⟩ := pulse_ends cfg b t
        ((boardStep cfg b (board cfg b store es) (.life e)).leds.pulser t).left rfl
      generalize ((boardStep cfg b (board cfg b store es) (.life e)).leds.pulser t).left = n
        at hsame hends
      have hrun : board cfg b store (es ++ .life e :: List.replicate n (.pulse t)) =
          run (boardStep cfg b) (boardStep cfg b (board cfg b store es) (.life e))
            (List.replicate n (.pulse t)) := run_append ..
      refine ⟨es ++ .life e :: List.replicate n (.pulse t), ?_, ?_, fun t' => ?_⟩
      · simp [hplain, BoardEvent.life?]
      · rw [hrun, life_concat, ← hlife]
        exact hsame.trans hstepped
      · rw [hrun, hends t']
        split
        · rfl
        · exact hothers t' ‹_›

/-! ## A pulse for each sample -/

/-- The thread has published a sample and not recorded a snapshot yet. -/
def Life.showsSample (l : Life) : AppThread → Prop
  | .main => l.main = .snapshot
  | .matter => l.running = true ∧ l.matter = .snapshot

section Samples
variable {cfg : Config} {w : World} {l : Life} {t : Turn}

theorem turn_of_publishes (h : l.publishes t = true) :
    (turn cfg t w l).showsSample t.thread := by
  cases t with
  | main =>
    have hmain : l.main = .publish := by simpa [Life.publishes] using h
    simp [turn, mainTurn, hmain, Turn.thread, Life.showsSample]
  | matter =>
    obtain ⟨hrunning, hmatter⟩ : l.running = true ∧ l.matter = .publish := by
      simpa [Life.publishes] using h
    have hmain : (turn cfg .matter w l).main = l.main := by
      simp [turn, hrunning, matterTurn_main]
    refine ⟨?_, by simp [turn, hrunning, matterTurn, hmatter]⟩
    rw [Life.running, hmain]
    exact hrunning
  | sensorWork => cases h
  | policyWork => cases h

/-- A thread in a pulse stands where it is while the other takes turns, up to a reboot. -/
theorem turn_of_showsSample {t' : AppThread} (hshows : l.showsSample t') (hother : t' ≠ t.thread)
    (hup : t = .policyWork → rebooted l.device (turn cfg t w l).device = false) :
    (turn cfg t w l).showsSample t' := by
  cases t with
  | main =>
    cases t' with
    | main => exact absurd rfl hother
    | matter =>
      obtain ⟨hrunning, hmatter⟩ := hshows
      have hmain : (mainTurn cfg w l).matter = l.matter ∧ (mainTurn cfg w l).running = true := by
        simp only [Life.running, Bool.and_eq_true, bne_iff_ne] at hrunning ⊢
        unfold mainTurn
        cases hl : l.main with
        | startApp => exact absurd hl hrunning.1
        | exited => exact absurd hl hrunning.2
        | sample =>
          dsimp only
          split <;> simp
        | publish => simp
        | snapshot => simp
        | loop => simp
      exact ⟨hmain.2, hmain.1.trans hmatter⟩
  | sensorWork =>
    cases t' with
    | main =>
      have hmain : l.main = .snapshot := hshows
      simp only [turn, Life.showsSample]
      split
      · rw [sensorWorkTurn_main, hmain]
      · exact hmain
    | matter => exact absurd rfl hother
  | policyWork =>
    cases t' with
    | main =>
      have hmain : l.main = .snapshot := hshows
      have hrunning : l.running = true := by simp [Life.running, hmain]
      have hup' := hup rfl
      simp only [turn, hrunning, if_true, Life.showsSample] at hup' ⊢
      unfold policyWorkTurn at hup' ⊢
      cases hmatter : l.matter with
      | idle =>
        simp only [hmatter] at hup' ⊢
        split
        · rename_i hreboot
          rw [if_pos hreboot] at hup'
          simp [hreboot] at hup'
        · exact hmain
      | _ => exact hmain
    | matter => exact absurd rfl hother
  | matter =>
    cases t' with
    | main =>
      have hmain : l.main = .snapshot := hshows
      simp only [turn, Life.showsSample]
      split
      · rw [matterTurn_main, hmain]
      · exact hmain
    | matter => exact absurd rfl hother

end Samples

/-- Who is in a pulse has published a sample. -/
def Board.Shows (s : Board) : Prop := ∀ t, s.leds.pulser t ≠ .away → s.life.showsSample t

theorem Board.Shows.turn {cfg : Config} {b : LedBoard} {s : Board} (h : s.Shows) {t : Turn}
    (haway : s.leds.pulser t.thread = .away) (w : World) :
    Board.Shows ⟨TinyEnvSensor.turn cfg t w s.life,
      (ledEvent cfg s.life t w).elim s.leds (ledStep b s.leds)⟩ := by
  have hstays : ∀ t', s.leds.pulser t' ≠ .away →
      (t = .policyWork →
        rebooted s.life.device (TinyEnvSensor.turn cfg t w s.life).device = false) →
      (TinyEnvSensor.turn cfg t w s.life).showsSample t' := by
    intro t' hin hup
    refine turn_of_showsSample (h t' hin) ?_ hup
    rintro rfl
    exact hin haway
  intro t' hin
  obtain ⟨hpublishes, hcall⟩ | ⟨-, -, hreset⟩ | ⟨-, hup, hinit | hsame⟩ :=
    ledEvent_cases cfg b s.leds s.life t w
  · by_cases ht' : t' = t.thread
    · rw [ht']
      exact turn_of_publishes hpublishes
    · rw [hcall, pulser_of_call haway, if_neg fun hboth => ht' hboth.1] at hin
      refine hstays t' hin ?_
      rintro rfl
      cases hpublishes
  · rw [hreset] at hin
    exact absurd rfl hin
  · rw [hinit, pulser_of_init] at hin
    exact hstays t' hin fun _ => hup
  · rw [hsame] at hin
    exact hstays t' hin fun _ => hup

theorem Board.Shows.step {cfg : Config} {b : LedBoard} {s : Board} (h : s.Shows)
    (e : BoardEvent) : (boardStep cfg b s e).Shows := by
  have hreset : ∀ l, Board.Shows ⟨l, {}⟩ := fun l t hin => absurd rfl hin
  cases e with
  | life e =>
    cases e with
    | turn t w =>
      simp only [boardStep]
      split
      · exact h.turn ‹_› w
      · exact h
    | reset causes => exact hreset _
    | cut t w calls cleared causes =>
      simp only [boardStep]
      split <;> exact hreset _
  | status w =>
    intro t hin
    refine h t ?_
    simpa [boardStep, ledStep, (ledStatusThread_pulse b s.leds w).2] using hin
  | pulse t =>
    intro t' hin
    refine h t' ?_
    simp only [boardStep, ledStep, pulseOn_pulser] at hin
    split at hin
    · rename_i hsame
      rw [hsame]
      intro haway
      simp [haway, Pulser.next] at hin
    · exact hin

theorem board_shows (cfg : Config) (b : LedBoard) (store : Settings) (es : List BoardEvent) :
    (board cfg b store es).Shows :=
  run_invariant (fun _ (s : Board) => s.Shows) (fun _ hin => absurd rfl hin)
    (fun _ e h => h.step e) es

/-- **The green LED shows a sample.** At any moment of the life of a board: where the green LED is
lit, a thread is in a pulse that has lit it and not put it out, and where `sPulseActive` is up, a
thread has yet to clear it; that thread has published a sample and not recorded a snapshot yet. -/
theorem green_shows_sample (cfg : Config) (b : LedBoard) (store : Settings)
    (es : List BoardEvent) :
    let s := board cfg b store es
    (s.leds.pin .green = true → ∃ t, s.leds.pulser t = .lit ∧ s.life.showsSample t) ∧
      (s.leds.sPulseActive = true →
        ∃ t, (s.leds.pulser t).holdsFlag = true ∧ s.life.showsSample t) := by
  have hshows := board_shows cfg b store es
  obtain ⟨es', hleds⟩ := leds_of_board cfg b store es
  have hsound : LedsSound b (board cfg b store es).leds := hleds ▸ leds_sound b es'
  constructor
  · intro hgreen
    obtain ⟨t, ht⟩ := hsound.green hgreen
    exact ⟨t, ht, hshows t (by simp [ht])⟩
  · intro hflag
    obtain ⟨t, ht⟩ := hsound.flag hflag
    refine ⟨t, ht, hshows t fun haway => ?_⟩
    simp [haway, Pulser.holdsFlag] at ht

/-! ## Counting pulses -/

/-- A turn publishes a sample that the build shows with a pulse. -/
def publishesToShow (b : LedBoard) (s : Board) : BoardEvent → ℕ
  | .life (.turn t _) =>
    if s.leds.pulser t.thread = .away ∧ s.life.publishes t = true ∧ b.pulses = true then 1 else 0
  | _ => 0

/-- A pulse sets the pin of the LED: it is on afterwards. -/
def lights (b : LedBoard) (s : Board) : BoardEvent → ℕ
  | .pulse t =>
    if s.leds.pulser t = .stored ∧ (pulseOn b t s.leds).pin .green = true then 1 else 0
  | _ => 0

/-- The pulse of the thread has yet to light the LED. -/
def Pulser.due : Pulser → ℕ
  | .called => 1
  | .stored => 1
  | _ => 0

def Board.due (s : Board) : ℕ := (s.leds.pulser .main).due + (s.leds.pulser .matter).due

/-- The pulses that a reset or a reboot comes before. -/
def losesPulses (cfg : Config) (s : Board) : BoardEvent → ℕ
  | .life (.turn t w) =>
    if s.leds.pulser t.thread = .away ∧ s.life.publishes t = false ∧
      rebooted s.life.device (turn cfg t w s.life).device = true then s.due else 0
  | .life _ => s.due
  | _ => 0

theorem due_of_turn (cfg : Config) (b : LedBoard) {s : Board} {t : Turn}
    (haway : s.leds.pulser t.thread = .away) (w : World) :
    losesPulses cfg s (.life (.turn t w)) +
        Board.due ⟨turn cfg t w s.life, (ledEvent cfg s.life t w).elim s.leds (ledStep b s.leds)⟩ =
      s.due + publishesToShow b s (.life (.turn t w)) := by
  simp only [losesPulses, publishesToShow, haway, true_and]
  obtain ⟨hpublishes, hcall⟩ | ⟨hnot, hreboot, hreset⟩ | ⟨hnot, hup, hinit | hsame⟩ :=
    ledEvent_cases cfg b s.leds s.life t w
  · rw [hcall]
    simp only [Board.due, pulser_of_call haway, hpublishes]
    cases hpulses : b.pulses with
    | false => simp
    | true =>
      cases hthread : t.thread with
      | main =>
        rw [hthread] at haway
        simp [haway, Pulser.due]
        omega
      | matter =>
        rw [hthread] at haway
        simp [haway, Pulser.due]
  · rw [hreset]
    simp [hnot, hreboot, Board.due, Pulser.due]
  · rw [hinit]
    simp [hnot, hup, Board.due, pulser_of_init]
  · rw [hsame]
    simp [hnot, hup, Board.due]

/-- Where the port of the green LED is ready, a pulse that comes to light the LED does. -/
theorem pulse_lights {b : LedBoard} (hready : b.portReady .green = true) {s : Leds}
    {t : AppThread} (hstored : s.pulser t = .stored) : (pulseOn b t s).pin .green = true := by
  simp [pulseOn, hstored, setLedState_pin, hready]

theorem due_of_step (cfg : Config) {b : LedBoard} (hready : b.portReady .green = true) (s : Board)
    (e : BoardEvent) :
    lights b s e + losesPulses cfg s e + (boardStep cfg b s e).due =
      s.due + publishesToShow b s e := by
  cases e with
  | life e =>
    cases e with
    | turn t w =>
      by_cases haway : s.leds.pulser t.thread = .away
      · have hturn := due_of_turn cfg b haway w
        simp only [lights, boardStep, if_pos haway, Nat.zero_add]
        exact hturn
      · simp [lights, losesPulses, publishesToShow, boardStep, haway]
    | reset causes =>
      simp [lights, losesPulses, publishesToShow, boardStep, ledStep, Board.due, Pulser.due]
    | cut t w calls cleared causes =>
      simp only [lights, losesPulses, publishesToShow, boardStep]
      split <;> simp [ledStep, Board.due, Pulser.due]
  | status w =>
    simp [lights, losesPulses, publishesToShow, boardStep, ledStep, Board.due,
      (ledStatusThread_pulse b s.leds w).2]
  | pulse t =>
    have hlights : lights b s (.pulse t) = if s.leds.pulser t = .stored then 1 else 0 := by
      by_cases hstored : s.leds.pulser t = .stored
      · simp [lights, hstored, pulse_lights hready hstored]
      · simp [lights, hstored]
    rw [hlights]
    cases t with
    | main =>
      cases hpulser : s.leds.pulser .main <;>
        simp [losesPulses, publishesToShow, boardStep, ledStep, Board.due, pulseOn_pulser,
          hpulser, Pulser.next, Pulser.due]
    | matter =>
      cases hpulser : s.leds.pulser .matter <;>
        simp [losesPulses, publishesToShow, boardStep, ledStep, Board.due, pulseOn_pulser,
          hpulser, Pulser.next, Pulser.due]
      omega

/-- **One pulse for each sample.** Over the life of a board whose green LED has its port ready, the
publications of samples, in a build that has pulses, are as many as the times a pulse has set the
pin of the green LED, together with the pulses that a reset or a reboot came before and those that
are still to set it. -/
theorem one_pulse_for_each_sample (cfg : Config) (b : LedBoard) (store : Settings)
    (es : List BoardEvent) (hready : b.portReady .green = true) :
    tally (boardStep cfg b) (lights b) { life := unborn store } es +
        tally (boardStep cfg b) (losesPulses cfg) { life := unborn store } es +
        (board cfg b store es).due =
      tally (boardStep cfg b) (publishesToShow b) { life := unborn store } es := by
  have hbalance := tally_balance Board.due (due_of_step cfg hready) { life := unborn store } es
  have hnone : Board.due { life := unborn store } = 0 := rfl
  rw [tally_add, hnone, Nat.zero_add] at hbalance
  exact hbalance

/-- A boot up to its first sample, and `n` steps of the pulse for it. -/
def pulsedBoot (n : ℕ) : List BoardEvent :=
  [.life (.reset 1), .life (.turn .main {}), .life (.turn .main {}), .life (.turn .main {})] ++
    List.replicate n (.pulse .main)

theorem one_pulse_for_each_sample_of_two :
    tally (boardStep diagConfig {}) (lights {}) { life := unborn ∅ }
        (pulsedBoot 2 ++ pulsedBoot 1 ++ [.life (.reset 1)]) + 1 + 0 = 2 :=
  one_pulse_for_each_sample diagConfig {} ∅ (pulsedBoot 2 ++ pulsedBoot 1 ++ [.life (.reset 1)]) rfl

end TinyEnvSensor
