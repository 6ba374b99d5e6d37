import Automation.Execution.Progress
import Automation.Proofs.Walk.Account
import Automation.Regex.Reader

/-!
# Progress is told to the end

A printer receives while a run goes on, and the run does not wait for it: its receives come anywhere
between the events that are sent (`Printer.play`). It misses events that are no longer retained, but
never the last one that was sent. A run sends the event that ends it last, so a printer that
subscribed before the run gets to that event and to no other end, and what it has printed by then
are lines of a part of the events (`progress_reported`).
-/

namespace Automation

/-! ## Stretches of a channel -/

namespace Channel

variable {α : Type} {c : Channel α}

/-- The messages from one number up to another, with their numbers. -/
def between (c : Channel α) (first behind : Nat) : List (α × Nat) :=
  (c.sent.zipIdx.take behind).drop first

theorem mem_between {first behind i : Nat} {a : α} :
    (a, i) ∈ c.between first behind ↔ c.sent[i]? = some a ∧ first ≤ i ∧ i < behind := by
  simp only [between, List.mem_iff_getElem?, List.getElem?_drop, List.getElem?_take,
    List.getElem?_zipIdx]
  constructor
  · rintro ⟨n, there⟩
    grind
  · rintro ⟨there, after, before⟩
    exact ⟨i - first, by grind⟩

/-- What is sent later does not change what was sent. -/
theorem between_send (a : α) {behind : Nat} (sent : behind ≤ c.sent.length) (first : Nat) :
    (c.send a).between first behind = c.between first behind := by
  simp [between, send, List.zipIdx_append, List.take_append, sent]

theorem between_succ {first behind : Nat} {a : α} (le : first ≤ behind)
    (there : c.sent[behind]? = some a) :
    c.between first (behind + 1) = c.between first behind ++ [(a, behind)] := by
  have longer : first ≤ (c.sent.zipIdx.take behind).length := by
    obtain ⟨within, -⟩ := List.getElem?_eq_some_iff.mp there
    simp
    omega
  simp [between, List.take_add_one, there, List.drop_append_of_le_length longer]

theorem between_sublist {first behind behind' : Nat} (le : behind ≤ behind') :
    (c.between first behind).Sublist (c.between first behind') :=
  ((List.take_prefix_take_left le).sublist).drop _

/-- What a receiver is answered: that it missed messages, the message that it waits for, or that
there is none yet. -/
theorem receive_cases (c : Channel α) (position : Nat) :
    (position < c.oldest ∧ c.receive position = (.lagged (c.oldest - position), c.oldest)) ∨
      (∃ a, c.oldest ≤ position ∧ c.sent[position]? = some a ∧
        c.receive position = (.message a, position + 1)) ∨
      c.sent.length ≤ position ∧ c.receive position = (.nothing, position) := by
  by_cases behind : position < c.oldest
  · exact .inl ⟨behind, by rw [receive, if_pos behind]⟩
  · right
    rw [receive, if_neg behind]
    cases there : c.sent[position]? with
    | some a => exact .inl ⟨a, Nat.le_of_not_lt behind, rfl, rfl⟩
    | none => exact .inr ⟨List.getElem?_eq_none_iff.mp there, rfl⟩

end Channel

namespace Printer

variable {elapsed : Nat → String}

/-! ## Sends and receives -/

/-- What happens on a channel with a printer: an event is sent, or the printer receives. -/
inductive Move where
  | send (e : Event)
  | receive

/-- The events that are sent by some moves. -/
def sends (moves : List Move) : List Event :=
  moves.filterMap fun
    | .send e => some e
    | .receive => none

/-- A channel and the printer that receives from it. -/
structure Watched where
  channel : Channel Event
  printer : Printer

/-- What a move makes of them. How long a node took is known for each event by its number. -/
def Watched.move (elapsed : Nat → String) (s : Watched) : Move → Watched
  | .send e => ⟨s.channel.send e, s.printer⟩
  | .receive => ⟨s.channel, s.printer.step (elapsed s.printer.position) s.channel⟩

/-- What some moves make of them, one after another. -/
def play (elapsed : Nat → String) (moves : List Move) (s : Watched) : Watched :=
  moves.foldl (Watched.move elapsed) s

theorem sends_append (moves more : List Move) : sends (moves ++ more) = sends moves ++ sends more :=
  List.filterMap_append

theorem play_append (moves more : List Move) (s : Watched) :
    play elapsed (moves ++ more) s = play elapsed more (play elapsed moves s) :=
  List.foldl_append

/-- A printer that waits for the next message. -/
def subscribed (c : Channel Event) : Watched := ⟨c, c.sent.length, [], none⟩

/-- Receives leave the channel as it is, and sends come one after another. -/
theorem channel_play (moves : List Move) (s : Watched) :
    (play elapsed moves s).channel = ⟨s.channel.capacity, s.channel.sent ++ sends moves⟩ := by
  induction moves generalizing s with
  | nil => simp [play, sends]
  | cons m moves ih =>
    have rest := ih (s.move elapsed m)
    cases m with
    | send e => simpa [play, sends, Watched.move, Channel.send] using rest
    | receive => exact rest

/-! ## What a printer has received -/

/-- The line of a numbered event. -/
def lineOf (elapsed : Nat → String) (x : Event × Nat) : Option String :=
  x.1.kind.line? (elapsed x.2)

/-- **The invariant of a printer**, which waited for a message first: it has received a part of what
was sent since then, in this order. It printed the lines of these events, and has come to an end if
the last of them is one. It missed no end. -/
structure Reports (elapsed : Nat → String) (first : Nat) (s : Watched) : Prop where
  since : first ≤ s.printer.position
  upTo : s.printer.position ≤ s.channel.sent.length
  printed : ∃ received : List (Event × Nat),
    received.Sublist (s.channel.between first s.printer.position) ∧
      s.printer.lines = received.filterMap (lineOf elapsed) ∧
      s.printer.last = (received.getLast?.map Prod.fst).filter fun e => e.kind.isTerminal
  missed : s.printer.last = none →
    ∀ x ∈ s.channel.between first s.printer.position, x.1.kind.isTerminal = false

/-- Only the newest message of a channel may be an end, of those from some number on. -/
def EndsNewest (first : Nat) (c : Channel Event) : Prop :=
  ∀ i e, c.sent[i]? = some e → first ≤ i → e.kind.isTerminal = true → i + 1 = c.sent.length

theorem reports_subscribed (c : Channel Event) :
    Reports elapsed c.sent.length (subscribed c) where
  since := Nat.le_refl _
  upTo := Nat.le_refl _
  printed := ⟨[], List.nil_sublist _, rfl, rfl⟩
  missed _ := by simp [subscribed, Channel.between]

theorem Reports.send {first : Nat} {s : Watched} (h : Reports elapsed first s) (e : Event) :
    Reports elapsed first (s.move elapsed (.send e)) := by
  have same := Channel.between_send e h.upTo first
  refine ⟨h.since, ?_, ?_, ?_⟩
  · exact Nat.le_trans h.upTo (by simp [Watched.move, Channel.send])
  · exact same ▸ h.printed
  · exact same ▸ h.missed

/-- What a printer that has not come to an end makes of a receive: it goes on with the oldest
message that is retained, prints the line of a message, or waits on. -/
theorem receive_cases (elapsed : Nat → String) (c : Channel Event) (position : Nat)
    (lines : List String) :
    let s' := Watched.move elapsed ⟨c, position, lines, none⟩ .receive
    (position < c.oldest ∧ s' = ⟨c, c.oldest, lines, none⟩) ∨
      (∃ e, c.oldest ≤ position ∧ c.sent[position]? = some e ∧
        s' = ⟨c, position + 1, lines ++ (lineOf elapsed (e, position)).toList,
          if e.kind.isTerminal then some e else none⟩) ∨
      c.sent.length ≤ position ∧ s' = ⟨c, position, lines, none⟩ := by
  rcases c.receive_cases position with ⟨behind, lagged⟩ | ⟨e, retained, there, message⟩ |
    ⟨upTo, nothing⟩
  · exact .inl ⟨behind, by simp only [Watched.move, step, lagged]⟩
  · exact .inr (.inl ⟨e, retained, there, by simp only [Watched.move, step, message, lineOf]⟩)
  · exact .inr (.inr ⟨upTo, by simp only [Watched.move, step, nothing]⟩)

section Receive

variable {first position : Nat} {c : Channel Event} {lines : List String}
  (h : Reports elapsed first ⟨c, position, lines, none⟩)
include h

/-- A printer that has fallen behind does not miss the newest message, so it misses no end. -/
theorem Reports.lagged (retains : 0 < c.capacity) (newest : EndsNewest first c)
    (behind : position < c.oldest) : Reports elapsed first ⟨c, c.oldest, lines, none⟩ := by
  have kept : c.oldest + 1 ≤ c.sent.length := by
    unfold Channel.oldest at behind ⊢
    omega
  obtain ⟨received, part, told, ended⟩ := h.printed
  refine ⟨Nat.le_trans h.since (Nat.le_of_lt behind), Nat.le_of_succ_le kept,
    ⟨received, part.trans (Channel.between_sublist (Nat.le_of_lt behind)), told, ended⟩, ?_⟩
  rintro - ⟨e, i⟩ there
  obtain ⟨there, after, before⟩ := Channel.mem_between.mp there
  cases terminal : e.kind.isTerminal with
  | false => rfl
  | true =>
    have last : i + 1 = c.sent.length := newest i e there after terminal
    have before : i < c.oldest := before
    omega

theorem Reports.message {e : Event} (there : c.sent[position]? = some e) :
    Reports elapsed first ⟨c, position + 1, lines ++ (lineOf elapsed (e, position)).toList,
      if e.kind.isTerminal then some e else none⟩ := by
  obtain ⟨within, -⟩ := List.getElem?_eq_some_iff.mp there
  have grows := Channel.between_succ h.since there
  obtain ⟨received, part, told, ended⟩ := h.printed
  refine ⟨Nat.le_succ_of_le h.since, within, ⟨received ++ [(e, position)], ?_, ?_, ?_⟩, ?_⟩
  · exact grows ▸ part.append (List.Sublist.refl _)
  · have lines : lines = received.filterMap (lineOf elapsed) := told
    cases line : lineOf elapsed (e, position) <;> simp [lines, line]
  · simp [Option.filter]
  · intro goesOn x there
    rcases List.mem_append.mp (grows ▸ there) with old | new
    · exact h.missed rfl x old
    · obtain rfl := List.mem_singleton.mp new
      simpa using goesOn

end Receive

/-- **To receive keeps the invariant.** -/
theorem Reports.receive {first : Nat} {s : Watched} (h : Reports elapsed first s)
    (retains : 0 < s.channel.capacity) (newest : EndsNewest first s.channel) :
    Reports elapsed first (s.move elapsed .receive) := by
  obtain ⟨c, position, lines, last⟩ := s
  cases last with
  | some e => exact h
  | none =>
    rcases receive_cases elapsed c position lines with
      ⟨behind, same⟩ | ⟨e, -, there, same⟩ | ⟨-, same⟩
    · rw [same]
      exact h.lagged retains newest behind
    · rw [same]
      exact h.message there
    · rw [same]
      exact h

/-! ## Events that end -/

/-- Events of which the last one is an end, and no other. -/
structure EndedBy (ending : Event) (events : List Event) : Prop where
  last : events.getLast? = some ending
  terminal : ending.kind.isTerminal = true
  only : ∀ e ∈ events.dropLast, e.kind.isTerminal = false

section Ended

variable {ending : Event} {told sofar : List Event} (ends : EndedBy ending told)
include ends

theorem EndedBy.eq_of_mem {e : Event} (there : e ∈ told) (terminal : e.kind.isTerminal = true) :
    e = ending := by
  have split := List.dropLast_append_getLast? ending ends.last
  rw [← split] at there
  rcases List.mem_append.mp there with earlier | newest
  · rw [ends.only e earlier] at terminal
    cases terminal
  · exact List.mem_singleton.mp newest

/-- As long as such events are sent in their order, only the newest one may be an end. -/
theorem EndedBy.newest (before : List Event) (part : sofar <+: told) (capacity : Nat) :
    EndsNewest before.length ⟨capacity, before ++ sofar⟩ := by
  intro i e there since terminal
  obtain ⟨rest, rfl⟩ := part
  have place : sofar[i - before.length]? = some e := by
    rw [← List.getElem?_append_right since]
    exact there
  obtain ⟨within, -⟩ := List.getElem?_eq_some_iff.mp place
  have length : (before ++ sofar).length = before.length + sofar.length := List.length_append
  dsimp only
  by_contra other
  have earlier : e ∈ (sofar ++ rest).dropLast := by
    refine List.mem_iff_getElem?.mpr ⟨i - before.length, ?_⟩
    rw [List.dropLast_eq_take, List.getElem?_take_of_lt (by simp; omega),
      List.getElem?_append_left within, place]
  rw [ends.only e earlier] at terminal
  cases terminal

/-- The invariant of a printer holds as long as such events are sent, whenever it receives. -/
theorem EndedBy.reports (elapsed : Nat → String) {c : Channel Event} (retains : 0 < c.capacity)
    {moves : List Move} (part : sends moves <+: told) :
    Reports elapsed c.sent.length (play elapsed moves (subscribed c)) := by
  induction moves using List.reverseRecOn with
  | nil => exact reports_subscribed c
  | append_singleton moves m ih =>
    have earlier : sends moves <+: told :=
      (sends_append moves [m] ▸ List.prefix_append _ _).trans part
    have before := ih earlier
    have channel : (play elapsed moves (subscribed c)).channel =
        ⟨c.capacity, c.sent ++ sends moves⟩ := channel_play moves _
    have newest := ends.newest c.sent earlier c.capacity
    rw [play_append]
    cases m with
    | send e => exact before.send e
    | receive => exact before.receive (channel ▸ retains) (channel ▸ newest)

end Ended

/-! ## Coming to an end -/

/-- How many receives a printer needs at most to come to an end, if nothing more is sent: one to
hear that it missed messages, and one for each message that is retained. -/
def Watched.left (s : Watched) : Nat :=
  match s.printer.last with
  | some _ => 0
  | none =>
    s.channel.sent.length - max s.printer.position s.channel.oldest +
      if s.printer.position < s.channel.oldest then 1 else 0

theorem left_le (s : Watched) : s.left ≤ s.channel.capacity + 1 := by
  unfold Watched.left Channel.oldest
  split
  · exact Nat.zero_le _
  · split <;> omega

/-- An end was sent last, and the messages are retained for a while. -/
structure Concluded (first : Nat) (c : Channel Event) : Prop where
  retains : 0 < c.capacity
  newest : EndsNewest first c
  sent : first < c.sent.length
  ending : ∃ e, c.sent.getLast? = some e ∧ e.kind.isTerminal = true

theorem EndedBy.concluded {ending : Event} {told : List Event} (ends : EndedBy ending told)
    (before : List Event) {capacity : Nat} (retains : 0 < capacity) :
    Concluded before.length ⟨capacity, before ++ told⟩ where
  retains := retains
  newest := ends.newest before (List.prefix_refl told) capacity
  sent := by
    have some : told ≠ [] := List.getLast?_isSome.mp (by simp [ends.last])
    simpa [List.length_pos_iff] using some
  ending := ⟨ending, by simp [ends.last], ends.terminal⟩

section Concluded

variable {first : Nat} {s : Watched} (h : Reports elapsed first s)
  (concluded : Concluded first s.channel)
include h concluded

/-- A printer that has not come to an end did not receive the last message. -/
theorem Reports.behind (goesOn : s.printer.last = none) :
    s.printer.position < s.channel.sent.length := by
  obtain ⟨e, last, terminal⟩ := concluded.ending
  by_contra passed
  have sent := concluded.sent
  rw [List.getLast?_eq_getElem?] at last
  have there : (e, s.channel.sent.length - 1) ∈ s.channel.between first s.printer.position :=
    Channel.mem_between.mpr ⟨last, by omega, by omega⟩
  have goesOn : e.kind.isTerminal = false := h.missed goesOn _ there
  rw [goesOn] at terminal
  cases terminal

/-- It need not wait for a message. -/
theorem Reports.answered (goesOn : s.printer.last = none) :
    (s.channel.receive s.printer.position).1 ≠ .nothing := by
  have behind := h.behind concluded goesOn
  rcases s.channel.receive_cases s.printer.position with ⟨-, same⟩ | ⟨e, -, -, same⟩ | ⟨upTo, -⟩
  · simp [same]
  · simp [same]
  · omega

/-- Each receive brings it nearer to the end. -/
theorem Reports.left_receive (goesOn : s.printer.last = none) :
    (s.move elapsed .receive).left < s.left := by
  have behind := h.behind concluded goesOn
  have retains := concluded.retains
  obtain ⟨c, position, lines, last⟩ := s
  obtain rfl : last = none := goesOn
  dsimp only at behind retains
  rcases receive_cases elapsed c position lines with
    ⟨lag, same⟩ | ⟨e, retained, -, same⟩ | ⟨upTo, -⟩
  · rw [same]
    simp only [Watched.left, lag, if_true, Nat.lt_irrefl, if_false]
    omega
  · have here : ¬position < c.oldest := by omega
    have next : ¬position + 1 < c.oldest := by omega
    rw [same]
    cases e.kind.isTerminal <;>
    · simp [Watched.left, here, next]
      omega
  · omega

theorem Reports.left_pos (goesOn : s.printer.last = none) : 0 < s.left :=
  Nat.zero_lt_of_lt (h.left_receive concluded goesOn)

end Concluded

/-- **A printer comes to the end that was sent**, with no more receives than it needs. -/
theorem Reports.ends {first : Nat} {s : Watched} (h : Reports elapsed first s)
    (concluded : Concluded first s.channel) (n : Nat) (enough : s.left ≤ n) :
    (play elapsed (List.replicate n .receive) s).printer.last ≠ none := by
  induction n generalizing s with
  | zero =>
    intro goesOn
    have left := h.left_pos concluded goesOn
    omega
  | succ n ih =>
    rw [List.replicate_succ, play, List.foldl_cons]
    refine ih (h.receive concluded.retains concluded.newest) concluded ?_
    cases goesOn : s.printer.last with
    | none =>
      have nearer := h.left_receive concluded goesOn
      omega
    | some e =>
      have done : (s.move elapsed .receive).printer.last = some e := by
        simp only [Watched.move, step, goesOn]
      simp [Watched.left, done]

/-! ## Runs -/

/-- The messages behind those that were there before are the first ones of what is told. -/
theorem between_sublist_told {c : Channel Event} {before sofar told : List Event}
    (sent : c.sent = before ++ sofar) (part : sofar <+: told) (behind : Nat) :
    (c.between before.length behind).Sublist (told.zipIdx before.length) := by
  obtain ⟨rest, rfl⟩ := part
  have all : c.sent.zipIdx.drop before.length = sofar.zipIdx before.length := by
    simp [sent, List.zipIdx_append]
  have some : (c.between before.length behind).Sublist (sofar.zipIdx before.length) :=
    all ▸ (List.take_sublist behind c.sent.zipIdx).drop before.length
  rw [List.zipIdx_append]
  exact some.trans (List.sublist_append_left _ _)

/-- **A run ends with its last event**, and not before. -/
theorem endedBy_of_told {r : RunRequest} {o : Outcome} {a : Account} {executed : List Executed}
    {fatal : Option (Node × RunError)} (h : Told r o a executed fatal) :
    ∃ kind, o.Closes kind ∧ EndedBy ⟨r.executionId, kind⟩ a.events := by
  obtain ⟨kind, closes, events⟩ := h.events
  refine ⟨kind, closes, ?_, ?_, ?_⟩
  · simp [events, List.getLast?_cons]
  · cases closes <;> rfl
  · rw [events, ← List.map_dropLast, ← List.cons_append, List.dropLast_concat]
    simp only [List.mem_map, List.mem_cons, List.mem_append, List.mem_flatMap, Executed.events,
      Node.started]
    grind [EventKind.isTerminal]

/-- What a printer has made of numbered events: it received a part of them, in their order, and
printed the lines of these. If it has come to an end, that is the end of the events and of the
part. -/
structure Printed (elapsed : Nat → String) (events : List (Event × Nat)) (ending : Event)
    (p : Printer) (received : List (Event × Nat)) : Prop where
  part : received.Sublist events
  lines : p.lines = received.filterMap (lineOf elapsed)
  last : ∀ e, p.last = some e → e = ending ∧ received.getLast?.map Prod.fst = some ending

theorem EndedBy.printed {ending : Event} {told : List Event} (ends : EndedBy ending told)
    (elapsed : Nat → String) {c : Channel Event} (retains : 0 < c.capacity) {moves : List Move}
    (part : sends moves <+: told) :
    ∃ received, Printed elapsed (told.zipIdx c.sent.length) ending
      (play elapsed moves (subscribed c)).printer received := by
  obtain ⟨received, some, lines, last⟩ := (ends.reports elapsed retains part).printed
  have channel : (play elapsed moves (subscribed c)).channel = _ := channel_play moves _
  have told := some.trans (between_sublist_told (congrArg Channel.sent channel) part _)
  refine ⟨received, told, lines, fun e ended => ?_⟩
  rw [ended] at last
  obtain ⟨newest, terminal⟩ := Option.filter_eq_some_iff.mp last.symm
  obtain ⟨⟨e, i⟩, there, rfl⟩ := Option.map_eq_some_iff.mp newest
  have among := List.fst_mem_of_mem_zipIdx (told.subset (List.mem_of_getLast? there))
  have same : e = ending := ends.eq_of_mem among terminal
  exact ⟨same, same ▸ newest⟩

/-- **The progress of a run is told to its end.** For every run and every channel that retains at
least one message, there is one event that ends the run, the last of its events. Wherever the
receives of a printer come that subscribed before the run, it has printed the lines of a part of the
events, in their order, and if it has come to an end, that is the end of the run and the last event
of the part. Once the run has ended the printer waits for no message, and comes to the end. -/
theorem progress_reported [Regex.Library] {σ : Type} (services : Services (StateM σ))
    (policy : RevisitPolicy) (r : RunRequest) (w : σ) (c : Channel Event)
    (retains : 0 < c.capacity) (elapsed : Nat → String) :
    let (outcome, _, account) := (r.run services.recounted policy).run (w, .empty)
    ∃ ending : Event, outcome.Closes ending.kind ∧ account.events.getLast? = some ending ∧
      ∀ moves, sends moves <+: account.events →
        let s := play elapsed moves (subscribed c)
        (∃ received, Printed elapsed (account.events.zipIdx c.sent.length) ending s.printer
          received) ∧
        (sends moves = account.events →
          (s.printer.last = none → (s.channel.receive s.printer.position).1 ≠ .nothing) ∧
          ∀ n, c.capacity < n →
            (play elapsed (List.replicate n .receive) s).printer.last = some ending) := by
  obtain ⟨executed, fatal, told⟩ := run_accounted services.recounted_accounting policy r w
  obtain ⟨kind, closes, ends⟩ := endedBy_of_told told
  refine ⟨⟨r.executionId, kind⟩, closes, ends.last, fun moves part => ?_⟩
  refine ⟨ends.printed elapsed retains part, fun all => ?_⟩
  have channel : (play elapsed moves (subscribed c)).channel = _ := channel_play moves _
  have reports := ends.reports elapsed retains part
  have concluded : Concluded c.sent.length (play elapsed moves (subscribed c)).channel := by
    rw [channel, all]
    exact ends.concluded c.sent retains
  refine ⟨reports.answered concluded, fun n enough => ?_⟩
  have left := left_le (play elapsed moves (subscribed c))
  rw [channel] at left
  have ended := reports.ends concluded n (Nat.le_trans left enough)
  -- The receives at the end are moves of the printer too.
  have silent : sends (moves ++ List.replicate n .receive) = sends moves := by
    simp [sends]
  rw [← play_append] at ended ⊢
  obtain ⟨_, printed⟩ := ends.printed elapsed retains (silent.symm ▸ part)
  obtain ⟨e, last⟩ := Option.ne_none_iff_exists'.mp ended
  rw [last, (printed.last e last).1]

/-- A channel that retains one message, and a printer that receives nothing before the run has
ended: it hears that it missed the other messages, and gets the last one. -/
theorem progress_reported_late :
    let nodes : List Node := [⟨"a", "", none, none, .start⟩, ⟨"b", "", none, none, .finish⟩]
    let r : RunRequest := ⟨"w", "e", nodes, [⟨"ab", "a", "b", none, none⟩], none⟩
    let c : Channel Event := ⟨1, [⟨"d", .runCanceled⟩]⟩
    let script : Script := ⟨[], [], []⟩
    let account := ((r.run Script.outside.toServices.recounted .fail).run (script, .empty)).2.2
    let late := account.events.map Move.send ++ List.replicate 2 .receive
    0 < c.capacity ∧ account.events.length = 6 ∧
      (play (fun _ => "0") late (subscribed c)).printer.last = some ⟨"e", .runCompleted 2⟩ := by
  intro nodes r c script account late
  have retains : 0 < c.capacity := Nat.one_pos
  obtain ⟨ending, -, last, all⟩ :=
    progress_reported Script.outside.toServices .fail r script c retains fun _ => "0"
  have events : sends (account.events.map Move.send) = account.events := by simp [sends]
  have ended := ((all (account.events.map Move.send) (events ▸ List.prefix_refl _)).2 events).2 2
    (by decide)
  rw [← play_append] at ended
  have same : account.events.getLast? = some ⟨"e", .runCompleted 2⟩ := rfl
  exact ⟨retains, rfl, ended.trans (last.symm.trans same)⟩

end Printer

end Automation
