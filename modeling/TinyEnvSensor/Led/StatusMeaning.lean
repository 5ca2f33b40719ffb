import TinyEnvSensor.Foundations.Interleaving
import TinyEnvSensor.Foundations.Tally
import TinyEnvSensor.Led.StatusLed

/-! # What the LEDs show

In any order of the threads: the green LED is lit by a pulse only, and a pulse that has the flag to
itself is darkened by no more than the pass that had read the flag before; the red and the blue LED
show what the passes have decided. -/
namespace TinyEnvSensor
open History Interleaving
set_option autoImplicit false

/-- The thread has set `sPulseActive` and not cleared it yet. -/
def Pulser.holdsFlag : Pulser → Bool
  | .stored => true
  | .lit => true
  | .dark => true
  | _ => false

/-- What `SetLeds` is being called with. -/
def StatusThread.asks : StatusThread → Option Colors
  | .red c => some c
  | .green c => some c
  | .blue c => some c
  | _ => none

/-! ## What every state keeps -/

structure LedsSound (b : LedBoard) (s : Leds) : Prop where
  enabled : s.status ≠ .absent → b.kStatusLedEnabled = true
  dark : ∀ c, s.status.asks = some c → c.greenOn = false
  called : ∀ t, s.pulser t ≠ .away → b.hasLed .green = true
  driven : ∀ led, s.pin led = true → b.drives led = true
  green : s.pin .green = true → ∃ t, s.pulser t = .lit
  flag : s.sPulseActive = true → ∃ t, (s.pulser t).holdsFlag = true

section Step
variable {b : LedBoard} {s : Leds}

theorem LedsSound.reset : LedsSound b {} := by
  constructor <;> simp [StatusThread.asks]

theorem LedsSound.init (h : LedsSound b s) : LedsSound b (initLeds b s) := by
  unfold initLeds
  split
  · rename_i hon
    simp only [Bool.and_eq_true] at hon
    constructor
    · exact fun _ => hon.2
    · intro c hc
      cases hc
    · exact h.called
    · intro led hled
      dsimp only at hled
      split at hled
      · cases hled
      · exact h.driven led hled
    · intro hgreen
      dsimp only at hgreen
      split at hgreen
      · cases hgreen
      · exact h.green hgreen
    · exact h.flag
  · exact h

theorem LedsSound.setLed (h : LedsSound b s) {led : Led} {on : Bool}
    (hgreen : led = .green → on = false) (status : StatusThread)
    (henabled : b.kStatusLedEnabled = true)
    (hdark : ∀ c, status.asks = some c → c.greenOn = false) :
    LedsSound b { TinyEnvSensor.setLed b led on s with status := status } := by
  constructor
  · exact fun _ => henabled
  · exact hdark
  · simpa using h.called
  · intro other hother
    simp only [setLed_pin] at hother
    split at hother
    · rename_i hset
      rw [hset.1]
      exact hset.2
    · exact h.driven other hother
  · intro hlit
    simp only [setLed_pin, setLed_pulser] at hlit ⊢
    split at hlit
    · rename_i hset
      rw [hgreen hset.1.symm] at hlit
      cases hlit
    · exact h.green hlit
  · simpa using h.flag

theorem LedsSound.status (h : LedsSound b s) (w : World) : LedsSound b (ledStatusThread b w s) := by
  unfold ledStatusThread
  cases hstatus : s.status with
  | absent => exact h
  | load =>
    have henabled := h.enabled (by simp [hstatus])
    simp only [henabled, Bool.not_true, Bool.false_eq_true, if_false]
    split
    · exact h
    · exact { h with enabled := fun _ => henabled, dark := by simp [StatusThread.asks] }
  | fabrics =>
    exact { h with
      enabled := fun _ => h.enabled (by simp [hstatus])
      dark := by simp [StatusThread.asks] }
  | window commissioned =>
    refine { h with enabled := fun _ => h.enabled (by simp [hstatus]), dark := ?_ }
    rintro c hc
    obtain rfl := Option.some.inj hc
    exact statusColors_green ..
  | red c =>
    have hc := h.dark c (by simp [hstatus, StatusThread.asks])
    refine h.setLed (by simp) _ (h.enabled (by simp [hstatus])) ?_
    rintro c' hc'
    obtain rfl := Option.some.inj hc'
    exact hc
  | green c =>
    have hc := h.dark c (by simp [hstatus, StatusThread.asks])
    refine h.setLed (fun _ => hc) _ (h.enabled (by simp [hstatus])) ?_
    rintro c' hc'
    obtain rfl := Option.some.inj hc'
    exact hc
  | blue c =>
    refine h.setLed (by simp) _ (h.enabled (by simp [hstatus])) ?_
    rintro c' hc'
    cases hc'

theorem LedsSound.call (h : LedsSound b s) {t : AppThread} (haway : s.pulser t = .away) :
    LedsSound b (pulseGreenOnce b t s) := by
  unfold pulseGreenOnce
  split_ifs with hactivity hled
  · exact h
  · exact h
  · have hother : ∀ t', s.pulser t' ≠ .away → (s.setPulser t .called).pulser t' = s.pulser t' := by
      intro t' ht'
      rw [setPulser_pulser, if_neg]
      rintro rfl
      exact ht' haway
    refine { h with called := fun _ _ => by simpa using hled, green := ?_, flag := ?_ }
    · intro hgreen
      obtain ⟨t', ht'⟩ := h.green hgreen
      exact ⟨t', (hother t' (by simp [ht'])).trans ht'⟩
    · intro hflag
      obtain ⟨t', ht'⟩ := h.flag hflag
      refine ⟨t', ?_⟩
      rw [hother t' fun hnot => by simp [hnot, Pulser.holdsFlag] at ht']
      exact ht'

theorem LedsSound.pulse (h : LedsSound b s) (t : AppThread) : LedsSound b (pulseOn b t s) := by
  have hother : ∀ (p : Pulser) t', t' ≠ t → (s.setPulser t p).pulser t' = s.pulser t' := by
    intro p t' ht'
    rw [setPulser_pulser, if_neg ht']
  have hled : s.pulser t ≠ .away → b.hasLed .green = true := h.called t
  unfold pulseOn
  cases hpulser : s.pulser t with
  | away => exact h
  | called =>
    have hgreen : b.hasLed .green = true := hled (by simp [hpulser])
    refine { h with called := fun _ _ => hgreen, green := ?_, flag := ?_ }
    · intro hlit
      obtain ⟨t', ht'⟩ := h.green hlit
      refine ⟨t', (hother _ t' ?_).trans ht'⟩
      rintro rfl
      simp [hpulser] at ht'
    · exact fun _ => ⟨t, by simp [Pulser.holdsFlag]⟩
  | stored =>
    have hgreen : b.hasLed .green = true := hled (by simp [hpulser])
    constructor
    · simpa using h.enabled
    · simpa using h.dark
    · exact fun _ _ => hgreen
    · intro led hlit
      rw [setLedState_pin] at hlit
      split at hlit
      · rename_i hset
        rw [hset.1]
        simp [LedBoard.drives, hgreen, hset.2]
      · exact h.driven led hlit
    · exact fun _ => ⟨t, by simp⟩
    · exact fun _ => ⟨t, by simp [Pulser.holdsFlag]⟩
  | lit =>
    have hgreen : b.hasLed .green = true := hled (by simp [hpulser])
    constructor
    · simpa using h.enabled
    · simpa using h.dark
    · exact fun _ _ => hgreen
    · intro led hlit
      rw [setLedState_pin] at hlit
      split at hlit
      · cases hlit
      · exact h.driven led hlit
    · intro hlit
      rw [setLedState_pin] at hlit
      split at hlit
      · cases hlit
      · rename_i hset
        have hdrives := h.driven .green hlit
        simp only [LedBoard.drives, Bool.and_eq_true] at hdrives
        exact absurd ⟨rfl, hdrives.2⟩ hset
    · exact fun _ => ⟨t, by simp [Pulser.holdsFlag]⟩
  | dark =>
    have hgreen : b.hasLed .green = true := hled (by simp [hpulser])
    refine { h with called := fun _ _ => hgreen, green := ?_, flag := by simp }
    intro hlit
    obtain ⟨t', ht'⟩ := h.green hlit
    refine ⟨t', (hother _ t' ?_).trans ht'⟩
    rintro rfl
    simp [hpulser] at ht'

theorem LedsSound.step (h : LedsSound b s) (e : LedEvent) : LedsSound b (ledStep b s e) := by
  cases e with
  | reset => exact LedsSound.reset
  | init =>
    simp only [ledStep]
    split
    · exact h.init
    · exact h
  | status w => exact h.status w
  | call t =>
    simp only [ledStep]
    split
    · exact h.call ‹_›
    · exact h
  | pulse t => exact h.pulse t

end Step

theorem leds_sound (b : LedBoard) (es : List LedEvent) : LedsSound b (leds b es) :=
  run_invariant (fun _ s => LedsSound b s) LedsSound.reset (fun _ e h => h.step e) es

/-! ## A pulse and the pass in flight -/

/-- The pass has read the flag and not set the green LED yet. -/
def StatusThread.beforeGreen : StatusThread → Bool
  | .fabrics => true
  | .window _ => true
  | .red _ => true
  | .green _ => true
  | _ => false

/-- The status thread sets the green LED. -/
def setsGreen (s : Leds) : LedEvent → ℕ
  | .status _ =>
    match s.status with
    | .green _ => 1
    | _ => 0
  | _ => 0

/-- The other threads, while `t` is in a pulse, are the status thread and threads that have called
`PulseGreenOnce` and not gone on. -/
def LedEvent.spares (t : AppThread) : LedEvent → Prop
  | .status _ => True
  | .call t' => t' ≠ t
  | .pulse t' => t' = t
  | _ => False

/-- Where the flag is up, the status thread ends its pass and begins no other. -/
theorem ledStatusThread_in_pulse {b : LedBoard} {s : Leds} (h : LedsSound b s)
    (hup : s.sPulseActive = true) (w : World) :
    (ledStatusThread b w s).status.beforeGreen.toNat + setsGreen s (.status w) ≤
        s.status.beforeGreen.toNat ∧
      (setsGreen s (.status w) = 0 →
        (ledStatusThread b w s).pin .green = s.pin .green) := by
  unfold ledStatusThread setsGreen
  cases hstatus : s.status with
  | absent => simp [hstatus, StatusThread.beforeGreen]
  | load =>
    have henabled := h.enabled (by simp [hstatus])
    simp [henabled, hup, hstatus, StatusThread.beforeGreen]
  | fabrics => simp [StatusThread.beforeGreen]
  | window commissioned => simp [StatusThread.beforeGreen]
  | red c => simp [StatusThread.beforeGreen, setLed_pin]
  | green c => simp [StatusThread.beforeGreen]
  | blue c => simp [StatusThread.beforeGreen, setLed_pin]

/-- What holds while `t` is in a pulse that it has to itself; `n` counts the settings of the green
LED by the status thread since the pulse began. -/
structure InPulse (b : LedBoard) (t : AppThread) (pass : StatusThread) (n : ℕ) (s : Leds) :
    Prop where
  sound : LedsSound b s
  holds : (s.pulser t).holdsFlag = true
  up : s.sPulseActive = true
  once : n + s.status.beforeGreen.toNat ≤ pass.beforeGreen.toNat
  green : pass.beforeGreen = false → s.pin .green = decide (s.pulser t = .lit)

theorem InPulse.status {b : LedBoard} {t : AppThread} {pass : StatusThread} {n : ℕ} {s : Leds}
    (h : InPulse b t pass n s) (w : World) :
    InPulse b t pass (n + setsGreen s (.status w)) (ledStatusThread b w s) := by
  obtain ⟨hflag, hpulser⟩ := ledStatusThread_pulse b s w
  obtain ⟨hless, hsame⟩ := ledStatusThread_in_pulse h.sound h.up w
  have honce := h.once
  refine ⟨h.sound.status w, ?_, hflag.trans h.up, by omega, fun hpass => ?_⟩
  · rw [hpulser]
    exact h.holds
  · have hnone : setsGreen s (.status w) = 0 := by
      rw [hpass, Bool.toNat_false] at honce
      omega
    rw [hsame hnone, hpulser]
    exact h.green hpass

theorem InPulse.pulse {b : LedBoard} {t : AppThread} {pass : StatusThread} {n : ℕ} {s : Leds}
    (hdrives : b.drives .green = true) (h : InPulse b t pass n s)
    (hstays : (pulseOn b t s).pulser t ≠ .away) :
    InPulse b t pass n (pulseOn b t s) := by
  have hready : b.portReady .green = true := by
    simp only [LedBoard.drives, Bool.and_eq_true] at hdrives
    exact hdrives.2
  have hsound := h.sound.pulse t
  have hstatus := (pulseOn_display b s t).1
  have honce := h.once
  have hholds := h.holds
  unfold pulseOn at hstays hsound hstatus ⊢
  cases hpulser : s.pulser t with
  | away => simp [hpulser, Pulser.holdsFlag] at hholds
  | called => simp [hpulser, Pulser.holdsFlag] at hholds
  | stored =>
    simp only [hpulser] at hsound hstatus ⊢
    refine ⟨hsound, by simp [Pulser.holdsFlag], by simpa using h.up, by rwa [hstatus], ?_⟩
    exact fun _ => by simp [setLedState_pin, hready]
  | lit =>
    simp only [hpulser] at hsound hstatus ⊢
    refine ⟨hsound, by simp [Pulser.holdsFlag], by simpa using h.up, by rwa [hstatus], ?_⟩
    exact fun _ => by simp [setLedState_pin, hready]
  | dark => simp [hpulser] at hstays

/-- A step that spares the pulse of `t` keeps `t` out of it once it has left. -/
theorem away_of_spares {b : LedBoard} {t : AppThread} {s : Leds} {e : LedEvent}
    (he : e.spares t) (haway : s.pulser t = .away) : (ledStep b s e).pulser t = .away := by
  cases e with
  | reset => exact he.elim
  | init => exact he.elim
  | status w =>
    simp only [ledStep, (ledStatusThread_pulse b s w).2]
    exact haway
  | call t' =>
    simp only [ledStep]
    split
    · unfold pulseGreenOnce
      split_ifs
      · exact haway
      · exact haway
      · rw [setPulser_pulser, if_neg (Ne.symm he)]
        exact haway
    · exact haway
  | pulse t' =>
    obtain rfl : t' = t := he
    simp [ledStep, pulseOn, haway]

theorem InPulse.step {b : LedBoard} {t : AppThread} {pass : StatusThread} {n : ℕ} {s : Leds}
    (hdrives : b.drives .green = true) (h : InPulse b t pass n s) {e : LedEvent}
    (he : e.spares t) (hstays : (ledStep b s e).pulser t ≠ .away) :
    InPulse b t pass (n + setsGreen s e) (ledStep b s e) := by
  cases e with
  | reset => exact he.elim
  | init => exact he.elim
  | status w => exact h.status w
  | call t' =>
    have hsound := h.sound.step (.call t')
    simp only [ledStep] at hsound ⊢
    split
    · rename_i haway
      obtain ⟨hstatus, hpin, hflag⟩ := pulseGreenOnce_frame b s t'
      have hpulser : (pulseGreenOnce b t' s).pulser t = s.pulser t := by
        unfold pulseGreenOnce
        split_ifs
        · rfl
        · rfl
        · rw [setPulser_pulser, if_neg (Ne.symm he)]
      rw [if_pos haway] at hsound
      refine ⟨hsound, ?_, hflag.trans h.up, ?_, fun hpass => ?_⟩
      · rw [hpulser]
        exact h.holds
      · rw [hstatus]
        exact h.once
      · rw [hpin, hpulser]
        exact h.green hpass
    · exact h
  | pulse t' =>
    obtain rfl : t' = t := he
    exact h.pulse hdrives hstays

/-- **A pulse is darkened by the pass in flight at most.** A thread stores `true` in `sPulseActive`,
no other thread is in a pulse, and none goes on in one until it has cleared the flag. Meanwhile the
status thread sets the green LED at most once, and not at all unless it had read the flag before the
store; then the LED is lit exactly from the one setting of the pulse to the other. -/
theorem pulse_is_shown (b : LedBoard) (before es : List LedEvent) (t : AppThread)
    (hdrives : b.drives .green = true) (hcalled : (leds b before).pulser t = .called)
    (halone : ∀ t', t' ≠ t → (leds b before).pulser t' ≠ .lit) (hspares : ∀ e ∈ es, e.spares t)
    (hinside : (leds b (before ++ .pulse t :: es)).pulser t ≠ .away) :
    let s := leds b (before ++ .pulse t :: es)
    s.sPulseActive = true ∧
      tally (ledStep b) setsGreen (leds b (before ++ [.pulse t])) es ≤
        (leds b before).status.beforeGreen.toNat ∧
      ((leds b before).status.beforeGreen = false →
        s.pin .green = decide (s.pulser t = .lit)) := by
  have hsplit : before ++ .pulse t :: es = (before ++ [.pulse t]) ++ es := by simp
  rw [hsplit] at hinside ⊢
  have hbegin : InPulse b t (leds b before).status 0 (leds b (before ++ [.pulse t])) := by
    have hsound := leds_sound b (before ++ [.pulse t])
    rw [leds_concat] at hsound ⊢
    have hdark : (leds b before).pin .green = false := by
      by_contra hlit
      obtain ⟨t', ht'⟩ := (leds_sound b before).green (Bool.eq_true_of_not_eq_false hlit)
      refine halone t' ?_ ht'
      rintro rfl
      simp [hcalled] at ht'
    simp only [ledStep, pulseOn, hcalled] at hsound ⊢
    refine ⟨hsound, by simp [Pulser.holdsFlag], rfl, by simp, fun _ => ?_⟩
    simp [hdark]
  have hrun : ∀ es : List LedEvent, (∀ e ∈ es, e.spares t) →
      (leds b ((before ++ [.pulse t]) ++ es)).pulser t ≠ .away →
      InPulse b t (leds b before).status
        (tally (ledStep b) setsGreen (leds b (before ++ [.pulse t])) es)
        (leds b ((before ++ [.pulse t]) ++ es)) := by
    intro es
    induction es using List.reverseRecOn with
    | nil =>
      intro _ _
      simpa using hbegin
    | append_singleton es e ih =>
      intro hspares hinside
      have he := hspares e (by simp)
      have hnext : leds b ((before ++ [.pulse t]) ++ (es ++ [e])) =
          ledStep b (leds b ((before ++ [.pulse t]) ++ es)) e := by
        rw [← List.append_assoc, leds_concat]
      rw [hnext] at hinside ⊢
      have hearlier := ih (fun x hx => hspares x (List.mem_append_left _ hx)) fun haway =>
        hinside (away_of_spares he haway)
      have hstate : run (ledStep b) (leds b (before ++ [.pulse t])) es =
        leds b ((before ++ [.pulse t]) ++ es) := (run_append ..).symm
      rw [tally_concat, hstate]
      exact hearlier.step hdrives he hinside
  have hend := hrun es hspares hinside
  have honce := hend.once
  exact ⟨hend.up, by omega, hend.green⟩

theorem pulse_is_shown_to_a_sleeping_status :
    (leds {} ([.init, .call .matter] ++
      .pulse .matter :: [.pulse .matter, .status {}])).pin .green = true :=
  (pulse_is_shown {} [.init, .call .matter] [.pulse .matter, .status {}] .matter rfl rfl
    (fun t' _ => by cases t' <;> decide)
    (by simp [LedEvent.spares]) (by decide)).2.2 rfl

/-! ## The decisions -/

/-- The light of a node: blue while the commissioning window is open, red while it is closed and
the node not commissioned. -/
def indication (commissioned commissioning : Bool) : Colors :=
  ⟨!commissioning && !commissioned, false, commissioning⟩

/-- What the status thread has decided to show since the last reset. -/
def statusParty : Party Leds LedEvent Colors where
  takes s e :=
    match e, s.status with
    | .status w, .window commissioned =>
      some (statusColors commissioned w.commissioningWindowOpen s.elapsed).1
    | _, _ => none
  restarts e :=
    match e with
    | .reset => true
    | _ => false

def decisions (b : LedBoard) (es : List LedEvent) : List Colors :=
  statusParty.inbox (ledStep b) {} es

/-- The pass has decided and not set this LED yet. -/
def StatusThread.owes : StatusThread → Led → Bool
  | .red _, .red => true
  | .red _, .blue => true
  | .green _, .blue => true
  | .blue _, .blue => true
  | _, _ => false

/-- A LED that shows the last decision. -/
def shown (b : LedBoard) (led : Led) (ds : List Colors) : Bool :=
  b.drives led && (ds.getLast?.map fun c => c.on led).getD false

/-- The display after some decisions: each LED shows the last, or the one before where the pass has
not come to it. -/
structure Displays (b : LedBoard) (s : Leds) (ds : List Colors) : Prop where
  sound : LedsSound b s
  absent : s.status = .absent → ds = []
  indicated : ∀ c ∈ ds, ∃ commissioned commissioning, c = indication commissioned commissioning
  asked : ∀ c, s.status.asks = some c → ds.getLast? = some c
  pins : ∀ led, led ≠ .green →
    s.pin led = shown b led (if s.status.owes led then ds.dropLast else ds)

/-- A pass sets one LED as it has decided. -/
theorem Displays.setLed {b : LedBoard} {s : Leds} {ds : List Colors} (h : Displays b s ds)
    (led : Led) {c : Colors} (hasks : s.status.asks = some c) {status : StatusThread}
    (hsound : LedsSound b { TinyEnvSensor.setLed b led (c.on led) s with status := status })
    (hthere : status ≠ .absent) (hnext : ∀ c', status.asks = some c' → c' = c)
    (howes : ∀ other, other ≠ .green →
      status.owes other = if other = led then false else s.status.owes other) :
    Displays b { TinyEnvSensor.setLed b led (c.on led) s with status := status } ds := by
  have hlast := h.asked c hasks
  refine ⟨hsound, fun hnot => absurd hnot hthere, h.indicated, fun c' hc' => ?_,
    fun other hother => ?_⟩
  · rw [hnext c' hc']
    exact hlast
  · simp only [setLed_pin, howes other hother]
    by_cases hsame : other = led
    · subst hsame
      cases hdrives : b.drives other with
      | true => simp [shown, hdrives, hlast]
      | false =>
        have hnot : s.pin other = false := by
          by_contra hlit
          have := h.sound.driven other (Bool.eq_true_of_not_eq_false hlit)
          simp [hdrives] at this
        simp [shown, hdrives, hnot]
    · simp only [hsame, false_and, if_false]
      exact h.pins other hother

theorem Displays.status {b : LedBoard} {s : Leds} {ds : List Colors} (h : Displays b s ds)
    (w : World) :
    Displays b (ledStatusThread b w s) (ds ++ (statusParty.takes s (.status w)).toList) := by
  have hsound := h.sound.status w
  have hsame : ∀ s', LedsSound b s' → s'.pin = s.pin → s'.status ≠ .absent →
      s'.status.asks = none →
      (∀ led, led ≠ .green → s'.status.owes led = s.status.owes led) → Displays b s' ds := by
    intro s' hsound' hpin hthere hasks howes
    refine ⟨hsound', fun hnot => absurd hnot hthere, h.indicated, fun c hc => ?_,
      fun led hled => ?_⟩
    · rw [hasks] at hc
      cases hc
    · rw [hpin, howes led hled]
      exact h.pins led hled
  unfold ledStatusThread at hsound ⊢
  simp only [statusParty]
  cases hstatus : s.status with
  | absent => simpa [hstatus] using h
  | load =>
    have henabled := h.sound.enabled (by simp [hstatus])
    simp only [hstatus, henabled, Bool.not_true, Bool.false_eq_true, if_false] at hsound ⊢
    split
    · simpa using h
    · rename_i hdown
      rw [if_neg hdown] at hsound
      simp only [Option.toList_none, List.append_nil]
      exact hsame _ hsound rfl (by simp) rfl fun led _ => by simp [hstatus, StatusThread.owes]
  | fabrics =>
    simp only [hstatus, Option.toList_none, List.append_nil] at hsound ⊢
    exact hsame _ hsound rfl (by simp) rfl fun led _ => by simp [hstatus, StatusThread.owes]
  | window commissioned =>
    simp only [hstatus, Option.toList_some] at hsound ⊢
    refine ⟨hsound, by simp, ?_, ?_, fun led hled => ?_⟩
    · intro c hc
      obtain hc | hc := List.mem_append.mp hc
      · exact h.indicated c hc
      · refine ⟨commissioned, w.commissioningWindowOpen, ?_⟩
        rw [List.mem_singleton.mp hc, statusColors_eq]
        rfl
    · rintro c hc
      obtain rfl := Option.some.inj hc
      simp
    · have hpins := h.pins led hled
      simp only [hstatus, StatusThread.owes, Bool.false_eq_true, if_false] at hpins
      cases led with
      | green => exact absurd rfl hled
      | red => simpa [StatusThread.owes] using hpins
      | blue => simpa [StatusThread.owes] using hpins
  | red c =>
    simp only [hstatus, Option.toList_none, List.append_nil] at hsound ⊢
    refine h.setLed .red (by simp [hstatus, StatusThread.asks]) hsound (by simp) ?_ ?_
    · rintro c' hc'
      exact (Option.some.inj hc').symm
    · intro other hother
      rw [hstatus]
      cases other with
      | green => exact absurd rfl hother
      | red => rfl
      | blue => rfl
  | green c =>
    simp only [hstatus, Option.toList_none, List.append_nil] at hsound ⊢
    refine h.setLed .green (by simp [hstatus, StatusThread.asks]) hsound (by simp) ?_ ?_
    · rintro c' hc'
      exact (Option.some.inj hc').symm
    · intro other hother
      rw [hstatus]
      cases other with
      | green => exact absurd rfl hother
      | red => rfl
      | blue => rfl
  | blue c =>
    simp only [hstatus, Option.toList_none, List.append_nil] at hsound ⊢
    refine h.setLed .blue (by simp [hstatus, StatusThread.asks]) hsound (by simp) ?_ ?_
    · rintro c' hc'
      cases hc'
    · intro other hother
      rw [hstatus]
      cases other with
      | green => exact absurd rfl hother
      | red => rfl
      | blue => rfl

theorem Displays.pulse {b : LedBoard} {s s' : Leds} {ds : List Colors} (h : Displays b s ds)
    (hsound : LedsSound b s') (hstatus : s'.status = s.status)
    (hpin : ∀ led, led ≠ .green → s'.pin led = s.pin led) : Displays b s' ds := by
  refine ⟨hsound, ?_, h.indicated, ?_, fun led hled => ?_⟩
  · rw [hstatus]
    exact h.absent
  · rw [hstatus]
    exact h.asked
  · rw [hpin led hled, hstatus]
    exact h.pins led hled

theorem Displays.empty {b : LedBoard} {s : Leds} (hsound : LedsSound b s)
    (hpin : ∀ led, led ≠ .green → s.pin led = false) (hasks : s.status.asks = none) :
    Displays b s [] := by
  refine ⟨hsound, fun _ => rfl, by simp, fun c hc => ?_, fun led hled => ?_⟩
  · rw [hasks] at hc
    cases hc
  · simp [shown, hpin led hled]

theorem Displays.init {b : LedBoard} {s : Leds} {ds : List Colors} (h : Displays b s ds)
    (habsent : s.status = .absent) : Displays b (initLeds b s) ds := by
  obtain rfl := h.absent habsent
  have hpin : ∀ led, led ≠ .green → s.pin led = false := by
    intro led hled
    have hpins := h.pins led hled
    simpa [shown, habsent] using hpins
  refine Displays.empty h.sound.init (fun led hled => ?_) ?_
  · unfold initLeds
    split
    · dsimp only
      split
      · rfl
      · exact hpin led hled
    · exact hpin led hled
  · unfold initLeds
    split
    · rfl
    · rw [habsent]
      rfl

theorem displays (b : LedBoard) (es : List LedEvent) :
    Displays b (leds b es) (decisions b es) := by
  induction es using List.reverseRecOn with
  | nil => exact Displays.empty LedsSound.reset (fun _ _ => rfl) rfl
  | append_singleton es e ih =>
    have hsound := leds_sound b (es ++ [e])
    have hds : decisions b (es ++ [e]) = statusParty.receive (leds b es) (decisions b es) e :=
      inbox_concat ..
    rw [leds_concat] at hsound ⊢
    rw [hds]
    cases e with
    | reset => exact Displays.empty hsound (fun _ _ => rfl) rfl
    | init =>
      have hnone : statusParty.receive (leds b es) (decisions b es) .init = decisions b es := by
        simp [Party.receive, statusParty]
      rw [hnone]
      simp only [ledStep]
      split
      · exact ih.init ‹_›
      · exact ih
    | status w =>
      exact ih.status w
    | call t =>
      have hnone : statusParty.receive (leds b es) (decisions b es) (.call t) = decisions b es := by
        simp [Party.receive, statusParty]
      rw [hnone]
      simp only [ledStep] at hsound ⊢
      split
      · rename_i haway
        rw [if_pos haway] at hsound
        obtain ⟨hstatus, hpin, -⟩ := pulseGreenOnce_frame b (leds b es) t
        exact ih.pulse hsound hstatus fun led _ => by rw [hpin]
      · exact ih
    | pulse t =>
      have hnone : statusParty.receive (leds b es) (decisions b es) (.pulse t) =
          decisions b es := by
        simp [Party.receive, statusParty]
      rw [hnone]
      obtain ⟨hstatus, hpin⟩ := pulseOn_display b (leds b es) t
      exact ih.pulse hsound hstatus hpin

theorem getLast?_dropLast {α : Type*} {l : List α} {a a' : α} (hlast : l.getLast? = some a)
    (hbefore : l.dropLast.getLast? = some a') : ∃ pre, l = pre ++ [a', a] := by
  obtain ⟨l, rfl⟩ := List.getLast?_eq_some_iff.mp hlast
  rw [List.dropLast_concat] at hbefore
  obtain ⟨pre, rfl⟩ := List.getLast?_eq_some_iff.mp hbefore
  exact ⟨pre, by simp⟩

theorem exists_of_shown {b : LedBoard} {led : Led} {ds : List Colors}
    (h : shown b led ds = true) : ∃ c, ds.getLast? = some c ∧ c.on led = true := by
  simp only [shown, Bool.and_eq_true] at h
  cases hlast : ds.getLast? with
  | none => simp [hlast] at h
  | some c => exact ⟨c, rfl, by simpa [hlast] using h.2⟩

/-- **The red and the blue LED show what was decided last.** After any run, each of the two that can
be driven shows the last decision since the reset, or the one before while the pass has not come to
it. They are both lit only in the middle of `SetLeds`, where a closed window of a node without a
fabric takes the place of an open one. -/
theorem display_shows_decisions (b : LedBoard) (es : List LedEvent) :
    let s := leds b es
    let ds := decisions b es
    (∀ led, led ≠ .green →
      s.pin led = shown b led (if s.status.owes led then ds.dropLast else ds)) ∧
    (s.pin .red = true → s.pin .blue = true →
      s.status.owes .red = false ∧ s.status.owes .blue = true ∧
        ∃ pre, ds = pre ++ [⟨false, false, true⟩, ⟨true, false, false⟩]) := by
  have h := displays b es
  refine ⟨h.pins, fun hred hblue => ?_⟩
  rw [h.pins .red (by simp)] at hred
  rw [h.pins .blue (by simp)] at hblue
  obtain ⟨c, hc, hcred⟩ := exists_of_shown hred
  obtain ⟨c', hc', hcblue⟩ := exists_of_shown hblue
  have hone : ∀ c ∈ decisions b es, c.on .red = true → c.on .blue = false ∧
      c = ⟨true, false, false⟩ := by
    intro c hmem hon
    obtain ⟨commissioned, commissioning, rfl⟩ := h.indicated c hmem
    simp only [Colors.on, indication, Bool.and_eq_true, Bool.not_eq_true'] at hon ⊢
    simp [hon]
  have hother : ∀ c ∈ decisions b es, c.on .blue = true → c = ⟨false, false, true⟩ := by
    intro c hmem hon
    obtain ⟨commissioned, commissioning, rfl⟩ := h.indicated c hmem
    simp only [Colors.on, indication] at hon ⊢
    simp [hon]
  cases howes : (leds b es).status.owes .red with
  | true =>
    have hblue' : (leds b es).status.owes .blue = true := by
      cases hstatus : (leds b es).status <;> simp_all [StatusThread.owes]
    simp only [howes, hblue', if_true] at hc hc'
    obtain rfl := Option.some.inj (hc.symm.trans hc')
    have hmem := List.dropLast_subset _ (List.mem_of_getLast? hc)
    rw [(hone c hmem hcred).1] at hcblue
    cases hcblue
  | false =>
    simp only [howes, Bool.false_eq_true, if_false] at hc
    have hmem := List.mem_of_getLast? hc
    cases howes' : (leds b es).status.owes .blue with
    | false =>
      simp only [howes', Bool.false_eq_true, if_false] at hc'
      obtain rfl := Option.some.inj (hc.symm.trans hc')
      rw [(hone c hmem hcred).1] at hcblue
      cases hcblue
    | true =>
      simp only [howes', if_true] at hc'
      obtain rfl := (hone c hmem hcred).2
      obtain rfl := hother c' (List.dropLast_subset _ (List.mem_of_getLast? hc')) hcblue
      exact ⟨rfl, rfl, getLast?_dropLast hc hc'⟩

/-! ## The display of a node that stays as it is -/

/-- The status thread ends a pass. -/
def endsPass (s : Leds) : LedEvent → ℕ
  | .status _ =>
    match s.status with
    | .blue _ => 1
    | _ => 0
  | _ => 0

/-- Whoever asks the server finds the node like this. -/
def LedEvent.finds (commissioned commissioning : Bool) : LedEvent → Prop
  | .status w => isCommissioned w = commissioned ∧ w.commissioningWindowOpen = commissioning
  | .reset => False
  | _ => True

/-- What the pass in flight has read and decided is what the node is like now. -/
structure Fresh (commissioned commissioning : Bool) (s : Leds) : Prop where
  read : ∀ x, s.status = .window x → x = commissioned
  decided : ∀ c, s.status.asks = some c → c = indication commissioned commissioning

/-- The decision that each of the two LEDs shows is `c`. -/
def Settled (c : Colors) (s : Leds) (ds : List Colors) : Prop :=
  ∀ led, led ≠ .green → (if s.status.owes led then ds.dropLast else ds).getLast? = some c

section Settling
variable {b : LedBoard} {s : Leds} {commissioned commissioning : Bool}

theorem Fresh.of_same {s' : Leds} (h : Fresh commissioned commissioning s)
    (hstatus : s'.status = s.status) : Fresh commissioned commissioning s' := by
  constructor
  · rw [hstatus]
    exact h.read
  · rw [hstatus]
    exact h.decided

theorem Fresh.of_idle (hread : ∀ x, s.status ≠ .window x) (hasks : s.status.asks = none) :
    Fresh commissioned commissioning s := by
  refine ⟨fun x hx => absurd hx (hread x), fun c hc => ?_⟩
  rw [hasks] at hc
  cases hc

theorem Fresh.status (h : Fresh commissioned commissioning s) (hsound : LedsSound b s) {w : World}
    (hfinds : (LedEvent.status w).finds commissioned commissioning) :
    Fresh commissioned commissioning (ledStatusThread b w s) := by
  unfold ledStatusThread
  cases hstatus : s.status with
  | absent => exact h
  | load =>
    have henabled := hsound.enabled (by simp [hstatus])
    simp only [henabled, Bool.not_true, Bool.false_eq_true, if_false]
    split
    · exact h
    · exact Fresh.of_idle (by simp) rfl
  | fabrics =>
    refine ⟨fun x hx => ?_, by simp [StatusThread.asks]⟩
    rw [← StatusThread.window.inj hx]
    exact hfinds.1
  | window x =>
    refine ⟨by simp, fun c hc => ?_⟩
    rw [← Option.some.inj hc, statusColors_eq, h.read x hstatus, hfinds.2]
    rfl
  | red c =>
    refine ⟨by simp, fun c' hc' => ?_⟩
    exact h.decided c' (by rw [hstatus]; exact hc')
  | green c =>
    refine ⟨by simp, fun c' hc' => ?_⟩
    exact h.decided c' (by rw [hstatus]; exact hc')
  | blue c => exact Fresh.of_idle (by simp) rfl

theorem Fresh.step (h : Fresh commissioned commissioning s) (hsound : LedsSound b s) {e : LedEvent}
    (hfinds : e.finds commissioned commissioning) :
    Fresh commissioned commissioning (ledStep b s e) := by
  cases e with
  | reset => exact hfinds.elim
  | init =>
    simp only [ledStep]
    split
    · unfold initLeds
      split
      · exact Fresh.of_idle (by simp) rfl
      · exact h
    · exact h
  | status w => exact h.status hsound hfinds
  | call t =>
    simp only [ledStep]
    split
    · exact h.of_same (pulseGreenOnce_frame b s t).1
    · exact h
  | pulse t => exact h.of_same (pulseOn_display b s t).1

theorem status_of_endsPass {e : LedEvent} (h : endsPass s e ≠ 0) :
    endsPass s e = 1 ∧ ∃ w c, e = .status w ∧ s.status = .blue c := by
  cases e with
  | status w =>
    simp only [endsPass] at h
    split at h
    · rename_i c hstatus
      exact ⟨by simp [endsPass, hstatus], w, c, rfl, hstatus⟩
    · exact absurd rfl h
  | _ => exact absurd rfl h

theorem Fresh.of_endsPass {e : LedEvent} (h : endsPass s e ≠ 0) :
    Fresh commissioned commissioning (ledStep b s e) := by
  obtain ⟨-, w, c, rfl, hstatus⟩ := status_of_endsPass h
  simp only [ledStep, ledStatusThread, hstatus]
  exact Fresh.of_idle (by simp) rfl

theorem Settled.of_endsPass {ds : List Colors} (h : Fresh commissioned commissioning s)
    (hdisplays : Displays b s ds) {e : LedEvent} (hends : endsPass s e ≠ 0) :
    Settled (indication commissioned commissioning) (ledStep b s e) ds := by
  obtain ⟨-, w, c, rfl, hstatus⟩ := status_of_endsPass hends
  have hasks : s.status.asks = some c := by rw [hstatus]; rfl
  intro led hled
  simp only [ledStep, ledStatusThread, hstatus, StatusThread.owes, Bool.false_eq_true, if_false]
  rw [hdisplays.asked c hasks, h.decided c hasks]

theorem Settled.of_same {c : Colors} {ds : List Colors} {s' : Leds} (h : Settled c s ds)
    (hstatus : s'.status = s.status) : Settled c s' ds := by
  intro led hled
  rw [hstatus]
  exact h led hled

/-- A pass that comes to a LED shows the same there, and a decision comes with two LEDs to set. -/
theorem Settled.status {ds : List Colors}
    (h : Settled (indication commissioned commissioning) s ds)
    (hfresh : Fresh commissioned commissioning s) (hdisplays : Displays b s ds) (w : World) :
    Settled (indication commissioned commissioning) (ledStatusThread b w s)
      (ds ++ (statusParty.takes s (.status w)).toList) := by
  have hlast : ∀ c, s.status.asks = some c →
      ds.getLast? = some (indication commissioned commissioning) := by
    intro c hasks
    rw [hdisplays.asked c hasks, hfresh.decided c hasks]
  have hred := h .red (by simp)
  have hblue := h .blue (by simp)
  unfold ledStatusThread
  simp only [statusParty]
  cases hstatus : s.status with
  | absent => simpa [hstatus] using h
  | load =>
    have henabled := hdisplays.sound.enabled (by simp [hstatus])
    simp only [henabled, Bool.not_true, Bool.false_eq_true, if_false, Option.toList_none,
      List.append_nil]
    split
    · exact h
    · intro led hled
      simpa [hstatus, StatusThread.owes] using h led hled
  | fabrics =>
    intro led hled
    simpa [hstatus, StatusThread.owes] using h led hled
  | window x =>
    intro led hled
    cases led with
    | green => exact absurd rfl hled
    | red => simpa [hstatus, StatusThread.owes] using hred
    | blue => simpa [hstatus, StatusThread.owes] using hblue
  | red c =>
    have hlast' := hlast c (by rw [hstatus]; rfl)
    intro led hled
    cases led with
    | green => exact absurd rfl hled
    | red => simpa [StatusThread.owes] using hlast'
    | blue => simpa [hstatus, StatusThread.owes] using hblue
  | green c =>
    intro led hled
    cases led with
    | green => exact absurd rfl hled
    | red => simpa [hstatus, StatusThread.owes] using hred
    | blue => simpa [hstatus, StatusThread.owes] using hblue
  | blue c =>
    have hlast' := hlast c (by rw [hstatus]; rfl)
    intro led hled
    simpa [StatusThread.owes] using hlast'

/-- What the status thread decides at a step, if anything. -/
theorem decisions_concat (b : LedBoard) (es : List LedEvent) {e : LedEvent}
    (hfinds : e.finds commissioned commissioning) :
    decisions b (es ++ [e]) = decisions b es ++ (statusParty.takes (leds b es) e).toList := by
  have hds : decisions b (es ++ [e]) = statusParty.receive (leds b es) (decisions b es) e :=
    inbox_concat ..
  rw [hds, Party.receive, if_neg]
  intro hrestarts
  cases e with
  | reset => exact hfinds
  | _ => cases hrestarts

theorem Settled.step {ds : List Colors}
    (h : Settled (indication commissioned commissioning) s ds)
    (hfresh : Fresh commissioned commissioning s) (hdisplays : Displays b s ds) {e : LedEvent}
    (hfinds : e.finds commissioned commissioning) :
    Settled (indication commissioned commissioning) (ledStep b s e)
      (ds ++ (statusParty.takes s e).toList) := by
  cases e with
  | reset => exact hfinds.elim
  | init =>
    have hnot : s.status ≠ .absent := by
      intro habsent
      have hred := h .red (by simp)
      simp [hdisplays.absent habsent, habsent, StatusThread.owes] at hred
    simpa [ledStep, hnot, statusParty] using h
  | status w => exact h.status hfresh hdisplays w
  | call t =>
    simp only [ledStep, statusParty, Option.toList_none, List.append_nil]
    split
    · exact h.of_same (pulseGreenOnce_frame b s t).1
    · exact h
  | pulse t =>
    simp only [ledStep, statusParty, Option.toList_none, List.append_nil]
    exact h.of_same (pulseOn_display b s t).1

end Settling

/-- **The display settles.** While the server answers the status thread the same, the pass that runs
at the beginning may still show what was before; once one more pass has ended, the red and the blue
LED show what the node is like, and go on to, whatever pulses come in between. -/
theorem display_settles (b : LedBoard) (before es : List LedEvent)
    (commissioned commissioning : Bool)
    (hfinds : ∀ e ∈ es, e.finds commissioned commissioning)
    (hpasses : 2 ≤ tally (ledStep b) endsPass (leds b before) es) :
    ∀ led, led ≠ .green → b.drives led = true →
      (leds b (before ++ es)).pin led = (indication commissioned commissioning).on led := by
  have hrun : ∀ es : List LedEvent, (∀ e ∈ es, e.finds commissioned commissioning) →
      (1 ≤ tally (ledStep b) endsPass (leds b before) es →
        Fresh commissioned commissioning (leds b (before ++ es))) ∧
      (2 ≤ tally (ledStep b) endsPass (leds b before) es →
        Settled (indication commissioned commissioning) (leds b (before ++ es))
          (decisions b (before ++ es))) := by
    intro es
    induction es using List.reverseRecOn with
    | nil => exact fun _ => ⟨fun h => by simp at h, fun h => by simp at h⟩
    | append_singleton es e ih =>
      intro hfinds
      have he := hfinds e (by simp)
      obtain ⟨hfresh, hsettled⟩ := ih fun x hx => hfinds x (List.mem_append_left _ hx)
      have hstate : run (ledStep b) (leds b before) es = leds b (before ++ es) :=
        (run_append ..).symm
      have hdisplays := displays b (before ++ es)
      rw [tally_concat, hstate, ← List.append_assoc, leds_concat, decisions_concat b _ he]
      by_cases hends : endsPass (leds b (before ++ es)) e = 0
      · rw [hends, Nat.add_zero]
        refine ⟨fun hone => (hfresh hone).step hdisplays.sound he, fun htwo => ?_⟩
        exact (hsettled htwo).step (hfresh (by omega)) hdisplays he
      · refine ⟨fun _ => Fresh.of_endsPass hends, fun htwo => ?_⟩
        obtain ⟨hcount, w, c, rfl, hstatus⟩ := status_of_endsPass hends
        have hone : 1 ≤ tally (ledStep b) endsPass (leds b before) es := by omega
        have hshown := Settled.of_endsPass (hfresh hone) hdisplays hends
        simpa [statusParty, hstatus] using hshown
  intro led hled hdrives
  have hsettled := (hrun es hfinds).2 hpasses led hled
  rw [(displays b (before ++ es)).pins led hled, shown, hsettled, hdrives]
  rfl

theorem display_settles_after_two_passes :
    (leds {} ([.init] ++ List.replicate 12 (.status {}))).pin .red = true :=
  display_settles {} [.init] (List.replicate 12 (.status {})) false false
    (fun e he => by rw [List.eq_of_mem_replicate he]; exact ⟨rfl, rfl⟩) (by decide) .red
    (by decide) rfl

end TinyEnvSensor
