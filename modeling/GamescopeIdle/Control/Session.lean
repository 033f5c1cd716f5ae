import GamescopeIdle.Daemon.Timing

/-!
# GamescopeIdle.Control.Session

One `control::send` and the daemon it talks to.

The subcommands `blank`, `wake` and `status` connect, write their command, and print
the line they read back (`print_reply`).  Writes and reads may be split anywhere, and
the daemon goes on with everything else meanwhile: other clients, input, signals, its
timer.

`send_returns_own_answer`: the line that `send` returns is the daemon's answer to this
very command, in the event that read this connection, and it says what the handler did.
-/

namespace GamescopeIdle

open Daemon

/-- `str::trim_end`. -/
def trimEnd (s : String) : String :=
  .ofList ((s.toList.reverse.dropWhile isWhitespace).reverse)

/-- `str::as_bytes`. -/
def asBytes (s : String) : List UInt8 := s.toByteArray.data.toList

/-- The line that `send` writes. -/
def Command.line (c : Command) : String := c.asStr ++ "\n"

/-! ## the session -/

namespace Session

/-- Where a `send` is, with what it still has to write or has read so far. -/
inductive Stage where
  | connecting
  | writing (rest : List UInt8)
  | reading (got : List UInt8)
  | returned (line : String)
  | failed

/-- It is over. -/
def Stage.isOver : Stage → Bool
  | returned _ | failed => true
  | _ => false

/-- Where its connection is on the daemon's side; once it is answered, with the part
of the answer that has not been read. -/
inductive Place where
  | nowhere
  | backlog (i : Nat)
  | accepted
  | answered (unread : List UInt8)
deriving DecidableEq

/-- The client at this place, as a `ClientStep` names it. -/
def Place.client : Place → Option (Option Nat)
  | backlog i => some (some i)
  | accepted => some none
  | _ => none

/-- A step of the daemon and its surroundings, or of the `send`. -/
inductive Label where
  | daemon (l : GamescopeIdle.Label)
  | connect
  | write (n : Nat)
  | read (n : Nat)
  | eof
  | fail

end Session

/-- A daemon and a `send`. -/
structure Session where
  daemon : Daemon
  cmd : Command
  stage : Session.Stage := .connecting
  place : Session.Place := .nowhere
  /-- How many events had been handled when it connected; only statements read this. -/
  began : Nat := 0
  /-- How many had been handled before the one in which the daemon read this connection;
  only statements read this. -/
  answeredAt : Option Nat := none

/-- What `handle_control` writes back to the client that is being read. -/
def Daemon.reply (a : Answers) (d : Daemon) : Option String :=
  match d.loc with
  | .reading c _ _ => c.readLine.bind fun line => (d.machine.handleControl (d.env a) line).2
  | _ => none

namespace Session

/-- The step is one of the client at this place. -/
def Place.owns (p : Place) : GamescopeIdle.Label → Bool
  | .client (.send c _) | .client (.close c _) => p.client == some c
  | _ => false

/-- Where the connection is after a step of the daemon. -/
def Place.after (p : Place) (d : Daemon) : GamescopeIdle.Label → Place
  | .choose .accept =>
      match p with
      | backlog 0 => accepted
      | backlog (i + 1) => backlog i
      | p => p
  | .start a =>
      match p with
      | accepted => answered (asBytes ((d.reply a).getD ""))
      | p => p
  | _ => p

/-- The daemon reads and answers the connection at this place. -/
def Place.answers (p : Place) : GamescopeIdle.Label → Bool
  | .start _ => p == accepted
  | _ => false

/-- `answeredAt` after a step of the daemon. -/
def answeredAfter (s : Session) (l : GamescopeIdle.Label) : Option Nat :=
  if s.place.answers l then some s.daemon.handled.length else s.answeredAt

/-- The line `read_line` has got, without trailing white space. -/
def finish (line : List UInt8) : Stage :=
  match Client.decode line with
  | some line => .returned (trimEnd line)
  | none => .failed

/-- `read_line` after some more bytes. -/
def gotten (got : List UInt8) : Stage :=
  if 0x0A ∈ got then finish (got.takeWhile (· ≠ 0x0A) ++ [0x0A]) else .reading got

def step (s : Session) : Label → Option Session
  | .daemon l =>
      if s.place.owns l then none
      else
        (s.daemon.step l).map fun d =>
          { s with
            daemon := d
            place := s.place.after s.daemon l
            answeredAt := s.answeredAfter l }
  | .connect =>
      match s.stage with
      | .connecting =>
          (s.daemon.step (.client .connect)).map fun d =>
            { s with
              daemon := d
              stage := .writing (asBytes s.cmd.line)
              place := .backlog s.daemon.backlog.length
              began := s.daemon.handled.length }
      | _ => none
  | .write n =>
      match s.stage, s.place.client with
      | .writing rest, some c =>
          if 0 < n then
            (s.daemon.step (.client (.send c (rest.take n)))).map fun d =>
              { s with
                daemon := d
                stage := if rest.drop n = [] then .reading [] else .writing (rest.drop n) }
          else none
      | _, _ => none
  | .read n =>
      match s.stage, s.place with
      | .reading got, .answered unread =>
          if 0 < n ∧ unread ≠ [] then
            some { s with
              stage := gotten (got ++ unread.take n)
              place := .answered (unread.drop n) }
          else none
      | _, _ => none
  | .eof =>
      match s.stage, s.place with
      | .reading got, .answered [] => some { s with stage := finish got }
      | .reading got, .backlog _ =>
          if s.daemon.loc = .stopped then some { s with stage := finish got } else none
      | _, _ => none
  | .fail =>
      if s.stage.isOver then none
      else
        match s.place.client with
        | some c =>
            (s.daemon.step (.client (.close c .eof))).map fun d =>
              { s with daemon := d, stage := .failed, place := .nowhere }
        | none => some { s with stage := .failed, place := .nowhere }

/-- A `send` starts beside a running daemon. -/
def system : Automaton Session Label where
  init s := ∃ d cmd, loop.Reachable d ∧ s = { daemon := d, cmd := cmd }
  step := step

@[simp] theorem step_system (s : Session) (l : Label) : system.step s l = s.step l := rfl

/-! ## bytes and lines -/

theorem decode_asBytes (s : String) : Client.decode (asBytes s) = some s := by
  have hbytes : (⟨(asBytes s).toArray⟩ : ByteArray) = s.toByteArray := by simp [asBytes]
  rw [Client.decode, hbytes, String.fromUTF8?, dif_pos s.isValidUTF8]
  rfl

/-- A newline that only the end of a line has, in a part of it. -/
theorem eq_of_newline_mem {xs ys zs : List UInt8} (h : xs ++ ys = zs ++ [0x0A]) (hzs : 0x0A ∉ zs)
    (hxs : 0x0A ∈ xs) : ys = [] ∧ xs = zs ++ [0x0A] := by
  cases ys using List.reverseRecOn with
  | nil => exact ⟨rfl, by simpa using h⟩
  | append_singleton ys y =>
      rw [← List.append_assoc] at h
      have hzs' := (List.append_inj' h rfl).1
      rw [← hzs'] at hzs
      exact absurd (List.mem_append_left _ hxs) hzs

/-- The bytes of a line: its newline is the last one. -/
theorem asBytes_line (c : Command) :
    ∃ bytes, asBytes c.line = bytes ++ [0x0A] ∧ 0x0A ∉ bytes := by
  cases c
  · exact ⟨asBytes "blank", by decide, by decide⟩
  · exact ⟨asBytes "wake", by decide, by decide⟩
  · exact ⟨asBytes "status", by decide, by decide⟩

/-! ## the answer -/

/-- What the daemon answers to a command in a state. -/
def answer (c : Command) (st : State) : String :=
  match c with
  | .blank | .wake => "ok"
  | .status => st.toString

/-- The state a command leads to. -/
def target (c : Command) (st : State) : State :=
  match c with
  | .blank => .black
  | .wake => .active
  | .status => st

/-- The text answers the command, in the event `r`. -/
structure AnswerTo (c : Command) (text : String) (r : Handled) : Prop where
  event : r.event = .control (some c.line)
  text : text = answer c r.before
  state : r.after = target c r.before

theorem handleControl_line (env : Env) (c : Command) (m : Machine) :
    (m.handleControl env (some c.line)).2 = some (answer c m.state ++ "\n") ∧
      (m.handleControl env (some c.line)).1.state = target c m.state := by
  have hparse : Command.parse c.line = some c := Command.parse_asStr c
  cases c with
  | blank =>
      simp only [Machine.handleControl, hparse, Machine.forceBlank, target]
      refine ⟨rfl, ?_⟩
      split
      · rfl
      · next h => exact not_not.mp h
  | wake =>
      simp only [Machine.handleControl, hparse]
      exact ⟨rfl, rfl⟩
  | status => simp [Machine.handleControl, hparse, target, answer]

theorem state_handle_line (env : Env) (c : Command) (m : Machine) :
    (m.handle env (.control (some c.line))).state = target c m.state := by
  rw [Machine.handle]
  exact (handleControl_line env c m).2

/-- The bytes of an answer: its newline is the last one, and what is left of the line
is the answer. -/
theorem asBytes_answer (c : Command) (st : State) :
    (∃ bytes, asBytes (answer c st ++ "\n") = bytes ++ [0x0A] ∧ 0x0A ∉ bytes) ∧
      trimEnd (answer c st ++ "\n") = answer c st := by
  have hok : (∃ bytes, asBytes "ok\n" = bytes ++ [0x0A] ∧ 0x0A ∉ bytes) ∧
      trimEnd "ok\n" = "ok" := ⟨⟨asBytes "ok", by decide, by decide⟩, by decide⟩
  cases c with
  | blank => exact hok
  | wake => exact hok
  | status =>
      cases st with
      | active => exact ⟨⟨asBytes "active", by decide, by decide⟩, by decide⟩
      | dim => exact ⟨⟨asBytes "dim", by decide, by decide⟩, by decide⟩
      | black => exact ⟨⟨asBytes "black", by decide, by decide⟩, by decide⟩

/-- A line of which enough has been read is the whole answer. -/
theorem gotten_answer {c : Command} {st : State} {got unread : List UInt8}
    (h : got ++ unread = asBytes (answer c st ++ "\n")) :
    gotten got = .reading got ∨ gotten got = .returned (answer c st) := by
  obtain ⟨⟨bytes, hbytes, hno⟩, htrim⟩ := asBytes_answer c st
  unfold gotten
  split
  · next hnewline =>
      obtain ⟨-, hgot⟩ := eq_of_newline_mem (h.trans hbytes) hno hnewline
      have hwhole : got.takeWhile (· ≠ 0x0A) ++ [0x0A] = asBytes (answer c st ++ "\n") := by
        rw [hbytes, hgot, List.takeWhile_append_of_pos]
        · simp
        · intro b hb
          simpa using fun heq : b = 0x0A => hno (heq ▸ hb)
      rw [hwhole, finish, decode_asBytes]
      exact .inr (congrArg Stage.returned htrim)
  · exact .inl rfl

/-! ## the connection -/

/-- The client at this place, as the daemon has it, until it is answered. -/
def Place.find (p : Place) (d : Daemon) : Option Client :=
  match p with
  | backlog i => d.backlog[i]?
  | accepted =>
      match d.loc with
      | .reading c _ _ => some c
      | _ => none
  | _ => none

theorem reading_of_find {d : Daemon} {c : Client} (h : Place.accepted.find d = some c) :
    ∃ t q, d.loc = .reading c t q := by
  simp only [Place.find] at h
  split at h
  · next c' t q hloc =>
      obtain rfl := Option.some.inj h
      exact ⟨t, q, hloc⟩
  · contradiction

theorem backlog_take {d : Daemon} {b : Branch} (h : b ≠ .accept) :
    (d.take b).backlog = d.backlog := by
  cases b <;> first | rfl | contradiction

/-- Neither input, signals nor the other clients change a client. -/
theorem find_outside {p : Place} {d d' : Daemon} {l : GamescopeIdle.Label} {c : Client}
    (hl : l.isDaemon = false) (hc : p.find d = some c) (howns : p.owns l = false)
    (hstep : d.step l = some d') : p.find d' = some c := by
  cases l with
  | tick elapsed =>
      obtain rfl := Option.some.inj hstep
      exact hc
  | trySend w handover =>
      simp only [Daemon.step, Daemon.trySend, Option.ite_none_left_eq_some,
        Option.some.injEq] at hstep
      obtain ⟨-, rfl⟩ := hstep
      exact hc
  | raise signal =>
      obtain rfl := Option.some.inj hstep
      cases signal <;> exact hc
  | client cs =>
      cases cs with
      | connect =>
          obtain rfl := Option.some.inj hstep
          cases p with
          | backlog i =>
              have hi : d.backlog[i]? = some c := hc
              simp only [Place.find]
              rw [List.getElem?_append_left (List.getElem?_eq_some_iff.mp hi).1]
              exact hi
          | _ => exact hc
      | send who bytes | close who how =>
          cases who with
          | none =>
              simp only [Daemon.step, clientStep, modifyClient] at hstep
              split at hstep
              · obtain rfl := Option.some.inj hstep
                cases p with
                | accepted => simp [Place.owns, Place.client] at howns
                | _ => exact hc
              · contradiction
          | some j =>
              simp only [Daemon.step, clientStep, modifyClient, Option.ite_none_right_eq_some,
                Option.some.injEq] at hstep
              obtain ⟨-, rfl⟩ := hstep
              cases p with
              | backlog i =>
                  have hne : j ≠ i := by
                    rintro rfl
                    simp [Place.owns, Place.client] at howns
                  have hi : d.backlog[i]? = some c := hc
                  simp only [Place.find]
                  rw [List.getElem?_modify, hi]
                  simp [hne]
              | _ => exact hc
  | _ => simp [GamescopeIdle.Label.isDaemon] at hl

/-- Until it is answered, the daemon keeps the client, and only moves it up. -/
theorem find_after {p : Place} {d d' : Daemon} {l : GamescopeIdle.Label} {c : Client}
    (hc : p.find d = some c) (howns : p.owns l = false)
    (hanswer : ∀ a, l = .start a → p ≠ .accepted) (hstep : d.step l = some d') :
    (p.after d l).find d' = some c := by
  cases l with
  | choose b =>
      simp only [Daemon.step, Daemon.choose, Option.ite_none_right_eq_some,
        Option.some.injEq] at hstep
      obtain ⟨⟨hloc, -⟩, rfl⟩ := hstep
      cases p with
      | accepted => simp [Place.find, hloc] at hc
      | backlog i =>
          have hi : d.backlog[i]? = some c := hc
          by_cases hb : b = .accept
          · subst hb
            cases hlog : d.backlog with
            | nil => simp [hlog] at hi
            | cons c' cs =>
                rw [hlog] at hi
                cases i with
                | zero =>
                    obtain rfl : c' = c := by simpa using hi
                    simp [Place.after, Place.find, take, hlog]
                | succ i => simpa [Place.after, Place.find, take, hlog] using hi
          · have hsame : (Place.backlog i).after d (.choose b) = .backlog i := by
              cases b <;> first | rfl | contradiction
            rw [hsame]
            simp only [Place.find]
            rw [backlog_take hb]
            exact hi
      | _ => contradiction
  | start a =>
      obtain ⟨r, -, rfl⟩ := Option.map_eq_some_iff.mp hstep
      cases p with
      | accepted => exact absurd rfl (hanswer a rfl)
      | backlog i => exact hc
      | _ => contradiction
  | finish =>
      simp only [Daemon.step, Daemon.finish, Option.ite_none_right_eq_some,
        Option.some.injEq] at hstep
      obtain ⟨hloc, rfl⟩ := hstep
      cases p with
      | accepted => simp [Place.find, hloc] at hc
      | _ => exact hc
  | stop signal a =>
      simp only [Daemon.step, Daemon.stop, Option.ite_none_right_eq_some,
        Option.some.injEq] at hstep
      obtain ⟨⟨hloc, -⟩, rfl⟩ := hstep
      cases p with
      | accepted => simp [Place.find, hloc] at hc
      | _ => exact hc
  | _ => exact find_outside rfl hc howns hstep

/-! ## the invariant -/

/-- What `write_all` still has to write. -/
def unwritten (s : Session) : List UInt8 :=
  match s.stage with
  | .connecting => asBytes s.cmd.line
  | .writing rest => rest
  | _ => []

/-- The text answers the event in which the daemon read this very connection. -/
def Answered (s : Session) (text : String) : Prop :=
  ∃ pre r post, s.daemon.handled = pre ++ r :: post ∧ s.answeredAt = some pre.length ∧
    s.began ≤ pre.length ∧ AnswerTo s.cmd text r

/-- Where a `send` and its connection are. -/
inductive Ours (s : Session) : Prop
  | connecting (hstage : s.stage = .connecting) (hplace : s.place = .nowhere)
  /-- What has been written, and what has not, is the line. -/
  | sending {c : Client}
      (hstage : (∃ rest, s.stage = .writing rest ∧ rest ≠ []) ∨ s.stage = .reading [])
      (hc : s.place.find s.daemon = some c) (hopen : c.closed = none)
      (hbytes : c.sent ++ s.unwritten = asBytes s.cmd.line)
      (hbegan : s.began ≤ s.daemon.handled.length)
  /-- What has been read, and what has not, is the answer. -/
  | answered {st : State} {got unread : List UInt8} (hstage : s.stage = .reading got)
      (hplace : s.place = .answered unread) (hanswer : s.Answered (answer s.cmd st))
      (hbytes : got ++ unread = asBytes (answer s.cmd st ++ "\n"))
  | returned {text : String} {unread : List UInt8} (hstage : s.stage = .returned text)
      (hplace : s.place = .answered unread) (hanswer : s.Answered text)
  | hungUp (hstage : s.stage = .returned "") (hloc : s.daemon.loc = .stopped)
  | failed (hstage : s.stage = .failed)

theorem handled_of_step {d d' : Daemon} {l : GamescopeIdle.Label} (h : d.step l = some d') :
    d.handled <+: d'.handled := by
  cases step_moved h with
  | outside _ hf => exact hf.handled ▸ List.prefix_rfl
  | reported => simp [Daemon.handled, handledOf]
  | chose => simp [Daemon.handled]
  | ran =>
      rw [handled_exec]
      exact List.prefix_append _ _
  | finished | left => exact List.prefix_rfl

theorem Answered.step {s : Session} {text : String} (h : s.Answered text) {d : Daemon}
    {l : GamescopeIdle.Label} (hstep : s.daemon.step l = some d) {stage : Stage} {place : Place} :
    Answered { s with daemon := d, stage := stage, place := place } text := by
  obtain ⟨pre, r, post, hhandled, hat, hbegan, hr⟩ := h
  obtain ⟨more, hmore⟩ := handled_of_step hstep
  exact ⟨pre, r, post ++ more, by rw [← hmore, hhandled]; simp, hat, hbegan, hr⟩

/-- Once answered, a connection is not read again. -/
theorem after_answered {s : Session} {unread : List UInt8} (hplace : s.place = .answered unread)
    (l : GamescopeIdle.Label) :
    s.place.after s.daemon l = .answered unread ∧ s.answeredAfter l = s.answeredAt := by
  rw [answeredAfter, hplace]
  cases l with
  | choose b => cases b <;> exact ⟨rfl, rfl⟩
  | _ => exact ⟨rfl, rfl⟩

/-- A client whose line has been read has written all of it. -/
theorem readLine_of_sent {c : Client} {cmd : Command} {rest : List UInt8} (hopen : c.closed = none)
    (hbytes : c.sent ++ rest = asBytes cmd.line) {line : Option String}
    (hline : c.readLine = some line) : rest = [] ∧ line = some cmd.line := by
  obtain ⟨bytes, hcmd, hno⟩ := asBytes_line cmd
  unfold Client.readLine at hline
  split at hline
  · next hnewline =>
      obtain ⟨hrest, hsent⟩ := eq_of_newline_mem (hbytes.trans hcmd) hno hnewline
      have hwhole : c.sent.takeWhile (· ≠ 0x0A) ++ [0x0A] = asBytes cmd.line := by
        rw [hcmd, hsent, List.takeWhile_append_of_pos]
        · simp
        · intro b hb
          simpa using fun heq : b = 0x0A => hno (heq ▸ hb)
      rw [hwhole, decode_asBytes] at hline
      exact ⟨hrest, (Option.some.inj hline).symm⟩
  · simp [hopen] at hline

/-- The handler that reads the client answers it. -/
theorem ours_answer {s : Session} {c : Client}
    (hstage : (∃ rest, s.stage = .writing rest ∧ rest ≠ []) ∨ s.stage = .reading [])
    (hplace : s.place = .accepted) (hc : Place.accepted.find s.daemon = some c)
    (hopen : c.closed = none) (hbytes : c.sent ++ s.unwritten = asBytes s.cmd.line)
    (hbegan : s.began ≤ s.daemon.handled.length) {a : Answers} {d : Daemon}
    (hstep : s.daemon.step (.start a) = some d) :
    Ours { s with
      daemon := d
      place := s.place.after s.daemon (.start a)
      answeredAt := s.answeredAfter (.start a) } := by
  obtain ⟨t, q, hloc⟩ := reading_of_find hc
  obtain ⟨⟨e, t', q'⟩, hcurrent, rfl⟩ := Option.map_eq_some_iff.mp hstep
  simp only [current, hloc, Option.map_eq_some_iff, Prod.mk.injEq] at hcurrent
  obtain ⟨line, hline, rfl, rfl, rfl⟩ := hcurrent
  obtain ⟨hrest, rfl⟩ := readLine_of_sent hopen hbytes hline
  have hreply := (handleControl_line (s.daemon.env a) s.cmd s.daemon.machine).1
  have hread : s.stage = .reading [] := by
    cases hstage with
    | inl hwriting =>
        obtain ⟨rest, hwriting, hne⟩ := hwriting
        simp only [unwritten, hwriting] at hrest
        exact absurd hrest hne
    | inr hread => exact hread
  have hafter : s.place.after s.daemon (.start a) =
      .answered (asBytes (answer s.cmd s.daemon.machine.state ++ "\n")) := by
    rw [hplace]
    simp only [Place.after, Daemon.reply, hloc, hline, Option.bind_some, hreply, Option.getD_some]
  refine .answered hread hafter ?_ (List.nil_append _)
  have hat : s.answeredAfter (.start a) = some s.daemon.handled.length := by
    rw [answeredAfter, hplace]
    rfl
  refine ⟨s.daemon.handled, s.daemon.record a (.control (some s.cmd.line)) t q, [], ?_, hat, hbegan,
    ?_⟩
  · exact handled_exec _ _ _ _ _
  · refine ⟨rfl, rfl, ?_⟩
    simp only [record, state_handle_line]

/-- A step of the daemon or of its surroundings. -/
theorem ours_daemon {s : Session} (h : Ours s) {l : GamescopeIdle.Label} {d : Daemon}
    (howns : s.place.owns l = false) (hstep : s.daemon.step l = some d) :
    Ours { s with
      daemon := d
      place := s.place.after s.daemon l
      answeredAt := s.answeredAfter l } := by
  cases h with
  | connecting hstage hplace =>
      refine .connecting hstage ?_
      rw [hplace]
      cases l with
      | choose b => cases b <;> rfl
      | _ => rfl
  | sending hstage hc hopen hbytes hbegan =>
      by_cases hanswer : (∃ a, l = .start a) ∧ s.place = .accepted
      · obtain ⟨⟨a, rfl⟩, hplace⟩ := hanswer
        exact ours_answer hstage hplace (hplace ▸ hc) hopen hbytes hbegan hstep
      · refine .sending hstage (find_after hc howns ?_ hstep) hopen hbytes ?_
        · exact fun a hl hplace => hanswer ⟨⟨a, hl⟩, hplace⟩
        · exact Nat.le_trans hbegan (handled_of_step hstep).length_le
  | @answered st got unread hstage hplace hanswer hbytes =>
      obtain ⟨hstill, hat⟩ := after_answered hplace l
      rw [hat]
      exact .answered hstage hstill (hanswer.step hstep) hbytes
  | returned hstage hplace hanswer =>
      obtain ⟨hstill, hat⟩ := after_answered hplace l
      rw [hat]
      exact .returned hstage hstill (hanswer.step hstep)
  | hungUp hstage hloc =>
      refine .hungUp hstage ?_
      by_contra hrun
      exact absurd hloc (running_of_step hstep hrun)
  | failed hstage => exact .failed hstage

theorem ours_connect {s : Session} {d : Daemon}
    (hstep : s.daemon.step (.client .connect) = some d) :
    Ours { s with
      daemon := d
      stage := .writing (asBytes s.cmd.line)
      place := .backlog s.daemon.backlog.length
      began := s.daemon.handled.length } := by
  obtain rfl := Option.some.inj hstep
  refine @Ours.sending _ {} (.inl ⟨_, rfl, ?_⟩) ?_ rfl rfl (Nat.le_refl _)
  · obtain ⟨bytes, hbytes, -⟩ := asBytes_line s.cmd
    simp [hbytes]
  · simp [Place.find]

/-- A client sends to the end of what it has sent. -/
theorem find_send {p : Place} {who : Option Nat} {d d' : Daemon} {c : Client} {bytes : List UInt8}
    (hc : p.find d = some c) (hwho : p.client = some who)
    (hstep : d.step (.client (.send who bytes)) = some d') : p.find d' = some (c.send bytes) := by
  cases p with
  | backlog i =>
      obtain rfl := Option.some.inj hwho
      simp only [Daemon.step, clientStep, modifyClient, Option.ite_none_right_eq_some,
        Option.some.injEq] at hstep
      obtain ⟨-, rfl⟩ := hstep
      have hi : d.backlog[i]? = some c := hc
      simp only [Place.find]
      rw [List.getElem?_modify, hi]
      simp
  | accepted =>
      obtain rfl := Option.some.inj hwho
      obtain ⟨t, q, hloc⟩ := reading_of_find hc
      simp only [Daemon.step, clientStep, modifyClient, hloc, Option.some.injEq] at hstep
      rw [← hstep]
      rfl
  | _ => contradiction

theorem ours_write {s : Session} (h : Ours s) {rest : List UInt8} {who : Option Nat} {n : Nat}
    (hstage : s.stage = .writing rest) (hwho : s.place.client = some who) {d : Daemon}
    (hstep : s.daemon.step (.client (.send who (rest.take n))) = some d) :
    Ours { s with
      daemon := d
      stage := if rest.drop n = [] then .reading [] else .writing (rest.drop n) } := by
  cases h with
  | @sending c _ hc hopen hbytes hbegan =>
      have hsent : (c.send (rest.take n)).sent = c.sent ++ rest.take n := by
        simp [Client.send, hopen]
      have hstill : (c.send (rest.take n)).closed = none := by simp [Client.send, hopen]
      have hunwritten : s.unwritten = rest := by simp [unwritten, hstage]
      refine .sending ?_ (find_send hc hwho hstep) hstill ?_ ?_
      · by_cases hdone : rest.drop n = []
        · exact .inr (if_pos hdone)
        · exact .inl ⟨_, if_neg hdone, hdone⟩
      · rw [hsent, ← hbytes, hunwritten, List.append_assoc]
        congr 1
        by_cases hdone : rest.drop n = []
        · rw [unwritten, if_pos hdone, List.append_nil]
          simpa [hdone] using List.take_append_drop n rest
        · rw [unwritten, if_neg hdone]
          exact List.take_append_drop n rest
      · exact Nat.le_trans hbegan (handled_of_step hstep).length_le
  | connecting hno | answered hno | returned hno | hungUp hno | failed hno =>
      rw [hstage] at hno
      contradiction

theorem ours_read {s : Session} (h : Ours s) {got unread : List UInt8} (n : Nat)
    (hstage : s.stage = .reading got) (hplace : s.place = .answered unread) :
    Ours { s with stage := gotten (got ++ unread.take n), place := .answered (unread.drop n) } := by
  cases h with
  | @answered st got' unread' hstage' hplace' hanswer hbytes =>
      obtain rfl := Stage.reading.inj (hstage.symm.trans hstage')
      obtain rfl := Place.answered.inj (hplace.symm.trans hplace')
      have hsplit : (got ++ unread.take n) ++ unread.drop n =
          asBytes (answer s.cmd st ++ "\n") := by
        rw [List.append_assoc, List.take_append_drop, hbytes]
      cases gotten_answer hsplit with
      | inl hmore => exact .answered hmore rfl hanswer hsplit
      | inr hdone => exact .returned hdone rfl hanswer
  | sending _ hc =>
      rw [hplace] at hc
      contradiction
  | connecting hno | returned hno | hungUp hno | failed hno =>
      rw [hstage] at hno
      contradiction

/-- `read_line` at the end of the stream: the daemon has answered, or is gone. -/
theorem ours_eof {s : Session} (h : Ours s) {got : List UInt8} (hstage : s.stage = .reading got)
    (heof : s.place = .answered [] ∨ (∃ i, s.place = .backlog i) ∧ s.daemon.loc = .stopped) :
    Ours { s with stage := finish got } := by
  cases h with
  | @answered st got' unread hstage' hplace hanswer hbytes =>
      obtain rfl := Stage.reading.inj (hstage.symm.trans hstage')
      cases heof with
      | inl hend =>
          obtain rfl := Place.answered.inj (hplace.symm.trans hend)
          refine .returned ?_ hplace hanswer
          rw [List.append_nil] at hbytes
          rw [hbytes, finish, decode_asBytes]
          exact congrArg Stage.returned (asBytes_answer s.cmd st).2
      | inr hgone =>
          obtain ⟨⟨i, hno⟩, -⟩ := hgone
          rw [hplace] at hno
          contradiction
  | sending hstage' hc =>
      have hnothing : got = [] := by
        rcases hstage' with ⟨rest, hwriting, -⟩ | hreading
        · rw [hstage] at hwriting
          contradiction
        · exact Stage.reading.inj (hstage.symm.trans hreading)
      cases heof with
      | inl hend =>
          rw [hend] at hc
          contradiction
      | inr hgone =>
          refine .hungUp ?_ hgone.2
          rw [hnothing, show ([] : List UInt8) = asBytes "" from rfl, finish, decode_asBytes]
          rfl
  | connecting hno | returned hno | hungUp hno | failed hno =>
      rw [hstage] at hno
      contradiction

/-- Every step of the session keeps track of the connection. -/
theorem ours_step {s t : Session} {l : Label} (h : Ours s) (hstep : s.step l = some t) :
    Ours t := by
  cases l with
  | daemon l =>
      simp only [step, Option.ite_none_left_eq_some, Option.map_eq_some_iff,
        Bool.not_eq_true] at hstep
      obtain ⟨howns, d, hd, rfl⟩ := hstep
      exact ours_daemon h howns hd
  | connect =>
      simp only [step] at hstep
      split at hstep
      · obtain ⟨d, hd, rfl⟩ := Option.map_eq_some_iff.mp hstep
        exact ours_connect hd
      · contradiction
  | write n =>
      simp only [step] at hstep
      split at hstep
      · next rest who hstage hwho =>
          simp only [Option.ite_none_right_eq_some, Option.map_eq_some_iff] at hstep
          obtain ⟨-, d, hd, rfl⟩ := hstep
          exact ours_write h hstage hwho hd
      · contradiction
  | read n =>
      simp only [step] at hstep
      split at hstep
      · next got unread hstage hplace =>
          simp only [Option.ite_none_right_eq_some, Option.some.injEq] at hstep
          obtain ⟨-, rfl⟩ := hstep
          exact ours_read h n hstage hplace
      · contradiction
  | eof =>
      simp only [step] at hstep
      split at hstep
      · next got hstage hplace =>
          obtain rfl := Option.some.inj hstep
          exact ours_eof h hstage (.inl hplace)
      · next got i hstage hplace =>
          simp only [Option.ite_none_right_eq_some, Option.some.injEq] at hstep
          obtain ⟨hstopped, rfl⟩ := hstep
          exact ours_eof h hstage (.inr ⟨⟨i, hplace⟩, hstopped⟩)
      · contradiction
  | fail =>
      simp only [step, Option.ite_none_left_eq_some] at hstep
      obtain ⟨-, hfail⟩ := hstep
      split at hfail
      · obtain ⟨d, -, rfl⟩ := Option.map_eq_some_iff.mp hfail
        exact .failed rfl
      · obtain rfl := Option.some.inj hfail
        exact .failed rfl

theorem ours_of_reachable {s : Session} (h : system.Reachable s) : Ours s := by
  refine h.invariant (I := Ours) ?_ fun _ _ _ _ ih hstep => ours_step ih hstep
  rintro s ⟨d, cmd, -, rfl⟩
  exact .connecting rfl rfl

/-- **A control client gets the answer to its own command**: whatever `send` returns,
however its writes and reads were split and whatever the daemon and its other clients
did meanwhile, is the daemon's answer to this command, in the event in which it read
this very connection, and that event did what the answer says; or the daemon was
stopped before it came to the client. -/
theorem send_returns_own_answer {s : Session} (h : system.Reachable s) {text : String}
    (hreturned : s.stage = .returned text) :
    s.Answered text ∨ (text = "" ∧ s.daemon.loc = .stopped) := by
  cases ours_of_reachable h with
  | returned hstage hplace hanswer =>
      obtain rfl := Stage.returned.inj (hreturned.symm.trans hstage)
      exact .inl hanswer
  | hungUp hstage hloc =>
      obtain rfl := Stage.returned.inj (hreturned.symm.trans hstage)
      exact .inr ⟨rfl, hloc⟩
  | sending hno =>
      rcases hno with ⟨rest, hno, -⟩ | hno
      · rw [hreturned] at hno
        contradiction
      · rw [hreturned] at hno
        contradiction
  | connecting hno | answered hno | failed hno =>
      rw [hreturned] at hno
      contradiction

/-- `blank` in two writes, behind a client that asks for the status. -/
def blankBehindStatus : List Label :=
  [.daemon .finish, .daemon (.client .connect),
    .daemon (.client (.send (some 0) (asBytes "status\n"))), .connect, .write 2,
    .daemon (.choose .accept), .daemon (.start {}), .daemon .finish, .write 4,
    .daemon (.choose .accept), .daemon (.start {}), .read 1, .read 2]

/-- It returns its own `ok`, and not the other client's `active`. -/
theorem send_returns_own_answer_blank :
    ∃ s, system.run { daemon := .fresh, cmd := .blank } blankBehindStatus = some s ∧
      s.stage = .returned "ok" ∧ s.Answered "ok" := by
  obtain ⟨s, hrun, hreturned⟩ : ∃ s, system.run { daemon := .fresh, cmd := .blank }
      blankBehindStatus = some s ∧ s.stage = .returned "ok" := ⟨_, rfl, rfl⟩
  have hanswered := send_returns_own_answer
    ⟨_, _, ⟨_, _, .init Daemon.init_fresh, rfl⟩, hrun⟩ hreturned
  exact ⟨s, hrun, hreturned, hanswered.resolve_right (by simp)⟩

end Session

end GamescopeIdle
