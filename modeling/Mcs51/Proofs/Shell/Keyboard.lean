import Mcs51.Proofs.Console.Effects
import Mcs51.Shell.App

/-! # From keys to the console

Of a series of presses a timer accepts those that come late enough (`accept_after_iff`), so that the accepted ones
are an interval apart (`spaced_accepted`). An application that handles key presses and draws frames heeds the presses
that its two timers let through (`times_heeded`) and all others (`heeded_of_untimed`). Its console goes through what
the heeded events mean (`console_run`), so that it is a reachable one (`reachable_run`).
-/

namespace Mcs51

/-! ### Timers -/

namespace Debounce

variable {d : Debounce}

/-- A press is accepted if the last accepted one, if any, is an interval ago. -/
theorem accept_eq_true_iff (d : Debounce) (now : Nat) :
    (d.accept now).1 = true ↔ ∀ last ∈ d.last, d.interval ≤ now - last := by
  unfold accept
  cases d.last with
  | none => simp
  | some last =>
    dsimp only
    split <;> simp_all

/-- An accepted press is the last accepted one from then on; another one changes nothing. -/
theorem accept_snd (d : Debounce) (now : Nat) :
    (d.accept now).2 = if (d.accept now).1 then { d with last := some now } else d := by
  unfold accept
  cases d.last with
  | none => rfl
  | some last =>
    dsimp only
    split <;> rfl

@[simp] theorem interval_accept (d : Debounce) (now : Nat) : (d.accept now).2.interval = d.interval := by
  rw [accept_snd]
  split <;> rfl

def after (d : Debounce) (times : List Nat) : Debounce :=
  times.foldl (fun d now => (d.accept now).2) d

/-- The times of those presses that are accepted. -/
def accepted (d : Debounce) : List Nat → List Nat
  | [] => []
  | now :: times =>
    if (d.accept now).1 then now :: (d.accept now).2.accepted times else (d.accept now).2.accepted times

@[simp] theorem interval_after (d : Debounce) (times : List Nat) : (d.after times).interval = d.interval := by
  induction times generalizing d with
  | nil => rfl
  | cons now times ih => exact (ih _).trans (d.interval_accept now)

/-- The last accepted press is the last of the accepted ones. -/
theorem last_after (d : Debounce) (times : List Nat) :
    (d.after times).last = (d.accepted times).getLast?.or d.last := by
  induction times generalizing d with
  | nil => rfl
  | cons now times ih =>
    refine (ih (d.accept now).2).trans ?_
    rw [accepted, accept_snd]
    split
    · rw [List.getLast?_cons]
      cases (accepted _ times).getLast? <;> rfl
    · rfl

/-- Behind earlier presses a press is accepted if the last accepted of them, if any, is an interval ago. -/
theorem accept_after_iff (interval now : Nat) (earlier : List Nat) :
    (((new interval).after earlier).accept now).1 = true ↔
      ∀ last ∈ ((new interval).accepted earlier).getLast?, interval ≤ now - last := by
  rw [accept_eq_true_iff, last_after, interval_after, show (new interval).last = none from rfl, Option.or_none]
  rfl

theorem sublist_accepted (d : Debounce) (times : List Nat) : (d.accepted times).Sublist times := by
  induction times generalizing d with
  | nil => exact .slnil
  | cons now times ih =>
    rw [accepted]
    split
    · exact (ih _).cons_cons now
    · exact (ih _).cons now

/-- Accepted presses come an interval after the last one that was accepted before. -/
theorem interval_le_accepted (positive : 0 < d.interval) {last : Nat} (before : d.last = some last) (times : List Nat) :
    ∀ time ∈ d.accepted times, last + d.interval ≤ time := by
  induction times generalizing d last with
  | nil => nofun
  | cons now times ih =>
    rw [accepted]
    split
    next accept =>
      have late := (d.accept_eq_true_iff now).mp accept last before
      have next : (d.accept now).2 = { d with last := some now } := by rw [accept_snd, if_pos accept]
      rw [next]
      intro time member
      rcases List.mem_cons.mp member with rfl | member
      · omega
      · have := ih (d := { d with last := some now }) positive rfl time member
        dsimp only at this
        omega
    next held =>
      have next : (d.accept now).2 = d := by rw [accept_snd, if_neg held]
      rw [next]
      exact ih positive before

/-- Accepted presses are an interval apart. -/
theorem spaced_accepted (positive : 0 < d.interval) (times : List Nat) :
    (d.accepted times).Pairwise fun earlier later => earlier + d.interval ≤ later := by
  induction times generalizing d with
  | nil => exact .nil
  | cons now times ih =>
    rw [accepted, accept_snd]
    split
    · exact .cons (interval_le_accepted (d := { d with last := some now }) positive rfl times)
        (ih (d := { d with last := some now }) positive)
    · exact ih positive

/-- Without an interval every press is accepted. -/
theorem accepted_of_interval_zero (zero : d.interval = 0) (times : List Nat) : d.accepted times = times := by
  induction times generalizing d with
  | nil => rfl
  | cons now times ih =>
    have accept : (d.accept now).1 = true := by
      rw [accept_eq_true_iff, zero]
      exact fun _ _ => Nat.zero_le _
    rw [accepted, if_pos accept, ih (by rw [interval_accept, zero])]

end Debounce

/-! ### Key presses -/

inductive Timer
  | arrows
  | steps
deriving DecidableEq

/-- The timer that holds a key back. -/
def Key.timer? : Key → Option Timer
  | .left | .right | .up | .down => some .arrows
  | .char ' ' => some .steps
  | _ => none

namespace App

/-- A timer of an application. -/
def timer (app : App) : Timer → Debounce
  | .arrows => app.arrows
  | .steps => app.steps

/-- The application with another state of a timer. -/
def setTimer (app : App) (d : Debounce) : Timer → App
  | .arrows => { app with arrows := d }
  | .steps => { app with steps := d }

@[simp] theorem console_setTimer (app : App) (d : Debounce) (t : Timer) :
    (app.setTimer d t).console = app.console := by
  cases t <;> rfl

@[simp] theorem quit_setTimer (app : App) (d : Debounce) (t : Timer) : (app.setTimer d t).quit = app.quit := by
  cases t <;> rfl

private theorem timer_setTimer (app : App) (d : Debounce) (t u : Timer) :
    (app.setTimer d t).timer u = if u = t then d else app.timer u := by
  cases t <;> cases u <;> rfl

theorem accept_of_timer {key : Key} {t : Timer} (timed : key.timer? = some t) (app : App) (now : Nat) :
    app.accept key now = (((app.timer t).accept now).1, app.setTimer ((app.timer t).accept now).2 t) := by
  unfold Key.timer? at timed
  split at timed <;> first | contradiction | (obtain rfl := Option.some.inj timed; rfl)

theorem accept_of_untimed {key : Key} (untimed : key.timer? = none) (app : App) (now : Nat) :
    app.accept key now = (true, app) := by
  unfold accept
  split <;> first | rfl | contradiction

end App

private theorem Key.ne_of_timer {key : Key} {t : Timer} (timed : key.timer? = some t) : key ≠ .char 'c' := by
  rintro rfl
  contradiction

private theorem Key.input?_of_timer {key : Key} {t : Timer} (timed : key.timer? = some t) :
    ∃ b, key.input? = some (.byte b) := by
  unfold Key.timer? at timed
  split at timed <;> first | contradiction | exact ⟨_, rfl⟩

/-- Keys that are held back are input bytes. -/
theorem KeyPress.input?_of_timer {press : KeyPress} {t : Timer} (timed : press.key.timer? = some t) :
    ∃ b, press.input? = some (.byte b) := by
  rw [KeyPress.input?, if_neg fun quits => Key.ne_of_timer timed quits.2]
  exact Key.input?_of_timer timed

namespace App

/-! ### Runs -/

/-- What can happen to an application. -/
inductive Event
  | press (press : KeyPress) (now : Nat)
  | frame (now : Duration)

/-- The application after an event. -/
def after (app : App) : Event → App
  | .press press now => app.handleKey press now
  | .frame now => app.frame now

def run (app : App) (events : List Event) : App :=
  events.foldl after app

namespace Event

/-- What an event means to the console. -/
def meaning : Event → List Console.Event
  | .press p _ =>
    match p.input? with
    | some (.byte b) => [.push b]
    | some (.control code) => [.control code]
    | some .quit | none => []
  | .frame now => [.clock now, .frame now.seconds]

/-- The timer that holds an event back. -/
def timer? : Event → Option Timer
  | .press p _ => p.key.timer?
  | .frame _ => none

/-- The time of a press that a timer holds back. -/
def time? (t : Timer) : Event → Option Nat
  | .press p now => if p.key.timer? = some t then some now else none
  | .frame _ => none

/-- Whether an event is a press of the quit key. -/
def quits : Event → Bool
  | .press p _ => p.input? = some .quit
  | .frame _ => false

end Event

/-- Whether an event is let through by the timers. -/
def heeds (app : App) : Event → Bool
  | .press press now => (app.accept press.key now).1
  | .frame _ => true

/-- The events that are let through by the timers. -/
def heeded (app : App) : List Event → List Event
  | [] => []
  | event :: events =>
    if app.heeds event then event :: (app.after event).heeded events else (app.after event).heeded events

variable {app : App}

private theorem heeds_of_untimed {event : Event} (untimed : event.timer? = none) (app : App) :
    app.heeds event = true := by
  cases event with
  | press press now => exact congrArg Prod.fst (accept_of_untimed untimed app now)
  | frame now => rfl

/-- A press that a timer may hold back turns the timer on, and reaches the console if it is accepted. -/
theorem handleKey_of_timer {press : KeyPress} {t : Timer} (timed : press.key.timer? = some t) (app : App)
    (now : Nat) :
    ∃ b, press.input? = some (.byte b) ∧
      app.handleKey press now =
        { app.setTimer ((app.timer t).accept now).2 t with
          console := if ((app.timer t).accept now).1 then app.console.push b else app.console } := by
  obtain ⟨b, byte⟩ := KeyPress.input?_of_timer timed
  refine ⟨b, byte, ?_⟩
  rw [handleKey, byte]
  dsimp only
  rw [accept_of_timer timed]
  dsimp only
  split
  · rw [console_setTimer]
  · rw [← console_setTimer app ((app.timer t).accept now).2 t]

/-- Another press does at once what it means. -/
theorem handleKey_of_untimed {press : KeyPress} (untimed : press.key.timer? = none) (app : App) (now : Nat) :
    app.handleKey press now =
      { app with
        console := app.console.replay (Event.press press now).meaning
        quit := app.quit || press.input? = some .quit } := by
  unfold handleKey
  rw [accept_of_untimed untimed]
  dsimp only [Event.meaning]
  cases press.input? with
  | none => simp [Console.replay]
  | some input => cases input <;> simp [Console.replay, Console.after]

/-- The console goes through what an event means, if the event is let through. -/
theorem console_after (app : App) (event : Event) :
    (app.after event).console = app.console.replay (if app.heeds event then event.meaning else []) := by
  cases event with
  | frame now => rfl
  | press press now =>
    cases timed : press.key.timer? with
    | none =>
      have heeds : app.heeds (.press press now) = true := congrArg Prod.fst (accept_of_untimed timed app now)
      rw [if_pos heeds]
      exact congrArg App.console (handleKey_of_untimed timed app now)
    | some t =>
      obtain ⟨b, byte, next⟩ := handleKey_of_timer timed app now
      rw [show app.heeds (.press press now) = ((app.timer t).accept now).1 from
        congrArg Prod.fst (accept_of_timer timed app now)]
      refine (congrArg App.console next).trans ?_
      dsimp only [Event.meaning]
      rw [byte]
      split <;> rfl

/-- The console of an application goes through what the heeded events mean. -/
theorem console_run (app : App) (events : List Event) :
    (app.run events).console = app.console.replay ((app.heeded events).flatMap Event.meaning) := by
  induction events generalizing app with
  | nil => rfl
  | cons event events ih =>
    refine (ih (app.after event)).trans ?_
    rw [console_after, heeded, Console.replay, Console.replay, Console.replay, ← List.foldl_append]
    split <;> rfl

/-- Whatever is pressed, the console is a reachable one. -/
theorem reachable_run (reachable : app.console.Reachable) (events : List Event) :
    (app.run events).console.Reachable := by
  rw [console_run]
  generalize (app.heeded events).flatMap Event.meaning = history
  unfold Console.replay
  induction history using List.reverseRecOn with
  | nil => exact reachable
  | append_singleton history event ih =>
    rw [List.foldl_append]
    exact ih.after event

/-! ### What is held back -/

/-- An event turns on the timer that holds it back and no other. -/
theorem timer_after (app : App) (event : Event) (t : Timer) :
    (app.after event).timer t = (app.timer t).after (event.time? t).toList := by
  cases event with
  | frame now => cases t <;> rfl
  | press press now =>
    dsimp only [after, Event.time?]
    cases timed : press.key.timer? with
    | none =>
      rw [handleKey_of_untimed timed, if_neg nofun]
      cases t <;> rfl
    | some u =>
      obtain ⟨b, _, next⟩ := handleKey_of_timer timed app now
      rw [next]
      trans (app.setTimer ((app.timer u).accept now).2 u).timer t
      · cases t <;> rfl
      · rw [timer_setTimer]
        by_cases same : t = u
        · rw [if_pos same, if_pos (congrArg some same.symm), same]
          rfl
        · rw [if_neg same, if_neg fun equal => same (Option.some.inj equal).symm]
          rfl

/-- The presses that a timer lets through are those that it accepts, however they mix with other events. -/
theorem times_heeded (app : App) (events : List Event) (t : Timer) :
    (app.heeded events).filterMap (Event.time? t) = (app.timer t).accepted (events.filterMap (Event.time? t)) := by
  induction events generalizing app with
  | nil => rfl
  | cons event events ih =>
    have rest := ih (app.after event)
    rw [timer_after] at rest
    rw [heeded, List.filterMap_cons]
    cases timed : event.time? t with
    | none =>
      rw [timed] at rest
      split
      · rw [List.filterMap_cons, timed]
        exact rest
      · exact rest
    | some now =>
      rw [timed] at rest
      cases event with
      | frame => contradiction
      | press press time =>
        dsimp only [Event.time?] at timed
        split at timed
        next held =>
          obtain rfl := Option.some.inj timed
          have heeds : app.heeds (.press press time) = ((app.timer t).accept time).1 :=
            congrArg Prod.fst (accept_of_timer held app time)
          rw [heeds, Debounce.accepted]
          split
          · rw [List.filterMap_cons, Event.time?, if_pos held]
            exact congrArg _ rest
          · exact rest
        next => contradiction

/-- Presses of arrow keys, or of the step key, that reach the console are an interval apart. -/
theorem spaced_heeded (t : Timer) (positive : 0 < (app.timer t).interval) (events : List Event) :
    ((app.heeded events).filterMap (Event.time? t)).Pairwise fun earlier later =>
      earlier + (app.timer t).interval ≤ later := by
  rw [times_heeded]
  exact Debounce.spaced_accepted positive _

/-- No timer holds anything else back. -/
theorem heeded_of_untimed (app : App) (events : List Event) :
    (app.heeded events).filter (·.timer?.isNone) = events.filter (·.timer?.isNone) := by
  induction events generalizing app with
  | nil => rfl
  | cons event events ih =>
    rw [heeded]
    cases timed : event.timer? with
    | none => rw [if_pos (heeds_of_untimed timed app), List.filter_cons, List.filter_cons, timed, ih]
    | some t =>
      have held (events : List Event) :
          (event :: events).filter (·.timer?.isNone) = events.filter (·.timer?.isNone) := by
        rw [List.filter_cons, timed]
        rfl
      rw [held]
      split
      · rw [held, ih]
      · exact ih _

/-! ### Quitting -/

private theorem quit_after (app : App) (event : Event) : (app.after event).quit = (app.quit || event.quits) := by
  cases event with
  | frame now => exact (Bool.or_false _).symm
  | press press now =>
    cases timed : press.key.timer? with
    | none => exact congrArg App.quit (handleKey_of_untimed timed app now)
    | some t =>
      obtain ⟨b, byte, next⟩ := handleKey_of_timer timed app now
      refine (congrArg App.quit next).trans ?_
      rw [Event.quits, byte]
      simp

/-- An application quits if the quit key is pressed, and then for good. -/
theorem quit_run (app : App) (events : List Event) : (app.run events).quit = (app.quit || events.any Event.quits) := by
  induction events generalizing app with
  | nil => exact (Bool.or_false _).symm
  | cons event events ih =>
    refine (ih (app.after event)).trans ?_
    rw [quit_after, List.any_cons, Bool.or_assoc]

end App

end Mcs51
