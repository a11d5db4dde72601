import HttpSuite.Proofs.OnDemand

/-!
# One pass over a text

A cursor is asked for the next token or for all that is left, in any order and any number of times.
`cursor_one_shot` says that whatever it is asked, it goes over its text once and forward only:

* **on demand** — a reader that holds the text ahead of it and a mark that the ending was delivered,
  and lexes no further than it is asked to, gives the same replies (`cursor_ask`);
* **one step** — there are four things that a cursor can do when it is asked (`Stands.move`), and each
  moves it past the tokens that it hands out, or to its end (`Move.stands`, `Move.spent_iff`);
* **any number of steps** — so the tokens handed out are those passed (`Stands.after`), and the cursor
  is at its end as soon as a reply has delivered the ending (`spent_after_iff`).
-/

namespace HttpSuite

open Lexing

/-! ## Questions and replies -/

/-- What a cursor can be asked for. -/
inductive Ask
  | next
  | all
  deriving DecidableEq, Repr

/-- What a cursor replies. -/
inductive Reply
  | token (token : Token)
  /-- There is no next token. -/
  | stop
  /-- All that was left. -/
  | tokens (tokens : List Token)
  | fault (fault : LexFault)
  deriving DecidableEq, Repr

/-- The reply to a question for the next token. -/
def Reply.ofDelivery : Cursor.Delivery → Reply
  | .token found => .token found
  | .fault found => .fault found
  | .exhausted => .stop

/-- The reply to a question for all that is left. -/
def Reply.ofRest : Except LexFault (List Token) → Reply
  | .ok found => .tokens found
  | .error found => .fault found

/-- The tokens that a reply hands out. -/
def Reply.given : Reply → List Token
  | .token found => [found]
  | .stop => []
  | .tokens found => found
  | .fault _ => []

/-- A reply that delivers the ending of a text: the token that closes it, or its fault. -/
def Reply.Ends : Reply → Prop
  | .fault _ => True
  | reply => ∃ token ∈ reply.given, token.kind = .eof

theorem Reply.ends_of_mem {reply : Reply} {last : Token} (h : last ∈ reply.given)
    (eof : last.kind = .eof) : reply.Ends := by
  cases reply with
  | fault => trivial
  | token | stop | tokens => exact ⟨last, h, eof⟩

/-- The reply to a question when nothing is left. -/
def Ask.exhausted : Ask → Reply
  | .next => .stop
  | .all => .tokens []

/-- Questions and the replies of something with a state that answers them, in turn. -/
def transcript {State : Type} (answer : State → Ask → Reply × State) :
    State → List Ask → List (Ask × Reply)
  | _, [] => []
  | state, ask :: asks => (ask, (answer state ask).1) :: transcript answer (answer state ask).2 asks

/-- The state after some questions. -/
def stateAfter {State : Type} (answer : State → Ask → Reply × State) (state : State)
    (asks : List Ask) : State :=
  asks.foldl (fun state ask => (answer state ask).2) state

/-- The tokens handed out in a transcript, in order. -/
def handedOut (replies : List (Ask × Reply)) : List Token :=
  replies.flatMap fun entry => entry.2.given

/-- The reply of a cursor, and the cursor afterwards. -/
def Cursor.ask (cursor : Cursor) : Ask → Reply × Cursor
  | .next => (.ofDelivery cursor.next.1, cursor.next.2)
  | .all => (.ofRest cursor.rest.1, cursor.rest.2)

/-- All tokens of a stream, with the one that closes it if there is one. -/
def Stream.whole (stream : Stream) : List Token :=
  stream.tokens ++ match stream.ending with
    | .eof position => [.endOfInput position]
    | .fault _ => []

section Transcript

variable {State View : Type} {answer : State → Ask → Reply × State}

/-- An entry of a transcript splits the questions, and was replied by the state that the questions
before it lead to. -/
theorem transcript_split {asks : List Ask} {state : State} {early later : List (Ask × Reply)}
    {ask : Ask} {reply : Reply} (h : transcript answer state asks = early ++ (ask, reply) :: later) :
    ∃ before after, early = transcript answer state before ∧ before = early.map (·.1) ∧
      reply = (answer (stateAfter answer state before) ask).1 ∧
      later = transcript answer (answer (stateAfter answer state before) ask).2 after := by
  induction asks generalizing state early with
  | nil => simp [transcript] at h
  | cons first asks ih =>
    cases early with
    | nil =>
      obtain ⟨entry, rfl⟩ := List.cons.inj h
      obtain ⟨rfl, rfl⟩ := Prod.mk.inj entry
      exact ⟨[], asks, rfl, rfl, rfl, rfl⟩
    | cons entry early =>
      obtain ⟨rfl, tail⟩ := List.cons.inj h
      obtain ⟨before, after, rfl, asked, reply, rest⟩ := ih tail
      exact ⟨first :: before, after, rfl, congrArg (first :: ·) asked, reply, rest⟩

/-- Two that give the same replies from states that correspond have the same transcripts. -/
theorem transcript_eq_of_view {seen : View → Ask → Reply × View} (view : State → View)
    (step : ∀ state ask, seen (view state) ask = ((answer state ask).1, view (answer state ask).2))
    (state : State) (asks : List Ask) :
    transcript seen (view state) asks = transcript answer state asks := by
  induction asks generalizing state with
  | nil => rfl
  | cons ask asks ih => rw [transcript, transcript, step, ih]

end Transcript

/-! ## Reading on demand -/

/-- A reader of a text: the place it has reached, the text ahead of it, and whether it has delivered
the ending. -/
structure Reader where
  position : Position
  ahead : List Char
  done : Bool

namespace Reader

/-- A reader in front of a text. -/
def ofText (source : String) : Reader :=
  ⟨.start, source.toList, false⟩

/-- Lex up to the end of the first token, or to the ending if no token is left. -/
def seek (position : Position) (cs : List Char) : Cursor.Delivery × Reader :=
  if cs.isEmpty then (.token (.endOfInput position), ⟨position, cs, true⟩)
  else match _h : Piece.first cs with
    | none => (.fault (.ofText position cs), ⟨position, cs, true⟩)
    | some piece =>
      match piece.kind with
      | none => seek (position.after piece.text) piece.rest
      | some kind => (.token ⟨kind, String.ofList piece.text, position⟩,
          ⟨position.after piece.text, piece.rest, false⟩)
termination_by cs.length
decreasing_by exact Piece.first_rest_length _h

/-- The next token or the ending, unless the ending was delivered. -/
def next (reader : Reader) : Cursor.Delivery × Reader :=
  if reader.done then (.exhausted, reader) else seek reader.position reader.ahead

/-- How much a reader may still deliver. -/
def left (reader : Reader) : Nat :=
  if reader.done then 0 else reader.ahead.length + 1

theorem left_seek (position : Position) (cs : List Char) :
    (seek position cs).2.left ≤ cs.length := by
  fun_induction seek position cs with
  | case1 position cs empty => exact Nat.zero_le _
  | case2 position cs nonempty stuck => exact Nat.zero_le _
  | case3 position cs nonempty piece first skipped ih =>
    exact ih.trans (Piece.first_rest_length first).le
  | case4 position cs nonempty piece first kind token => exact Piece.first_rest_length first

theorem left_next {reader later : Reader} {token : Token}
    (h : reader.next = (.token token, later)) : later.left < reader.left := by
  cases ended : reader.done with
  | true =>
    rw [next, ended] at h
    cases h
  | false =>
    rw [next, ended] at h
    have bound := left_seek reader.position reader.ahead
    rw [show seek reader.position reader.ahead = (.token token, later) from h] at bound
    rw [left.eq_def reader, ended]
    exact Nat.lt_succ_of_le bound

/-- Ask for the next token until there is none. A fault on the way is all that is delivered. -/
def all (reader : Reader) : Except LexFault (List Token) × Reader :=
  match _h : reader.next with
  | (.token token, later) => (later.all.1.map (token :: ·), later.all.2)
  | (.fault fault, later) => (.error fault, later)
  | (.exhausted, later) => (.ok [], later)
termination_by reader.left
decreasing_by all_goals exact left_next _h

/-- The reply of a reader, and the reader afterwards. -/
def ask (reader : Reader) : Ask → Reply × Reader
  | .next => (.ofDelivery reader.next.1, reader.next.2)
  | .all => (.ofRest reader.all.1, reader.all.2)

end Reader

/-- A cursor that has delivered everything. -/
def Cursor.spent : Cursor := ⟨[], none⟩

/-- A cursor in front of a stream. -/
def Stream.cursor (stream : Stream) : Cursor := ⟨stream.tokens, some stream.ending⟩

/-- The cursor that a reader stands for. -/
def Reader.cursor (reader : Reader) : Cursor :=
  if reader.done then .spent else (Stream.scan reader.position reader.ahead).cursor

theorem cursor_next_seek (position : Position) (cs : List Char) :
    (Stream.scan position cs).cursor.next =
      ((Reader.seek position cs).1, (Reader.seek position cs).2.cursor) := by
  fun_induction Reader.seek position cs with
  | case1 position cs empty =>
    obtain rfl := List.isEmpty_iff.1 empty
    rw [scan_stuck rfl]
    rfl
  | case2 position cs nonempty stuck =>
    rw [scan_stuck stuck, if_neg nonempty]
    rfl
  | case3 position cs nonempty piece first skipped ih =>
    rw [scan_cut position (cuts_of_first first), skipped]
    exact ih
  | case4 position cs nonempty piece first kind token =>
    rw [scan_cut position (cuts_of_first first), token]
    rfl

theorem cursor_next (reader : Reader) :
    reader.cursor.next = (reader.next.1, reader.next.2.cursor) := by
  cases ended : reader.done with
  | true => simp [Reader.cursor, Reader.next, ended, Cursor.spent, Cursor.next]
  | false =>
    rw [Reader.cursor, Reader.next, ended]
    exact cursor_next_seek reader.position reader.ahead

/-- All that is left of a cursor is what it hands out one by one. -/
theorem Cursor.rest_of_next (cursor : Cursor) :
    cursor.rest = match cursor.next with
      | (.token token, later) => (later.rest.1.map (token :: ·), later.rest.2)
      | (.fault fault, later) => (.error fault, later)
      | (.exhausted, later) => (.ok [], later) := by
  obtain ⟨pending, ending⟩ := cursor
  cases pending with
  | nil =>
    cases ending with
    | none => rfl
    | some ending => cases ending <;> rfl
  | cons token pending =>
    cases ending with
    | none => rfl
    | some ending => cases ending <;> rfl

theorem cursor_rest (reader : Reader) :
    reader.cursor.rest = (reader.all.1, reader.all.2.cursor) := by
  fun_induction Reader.all reader with
  | case1 reader token later found ih =>
    rw [Cursor.rest_of_next, cursor_next, found]
    dsimp only
    rw [ih]
  | case2 reader fault later found => rw [Cursor.rest_of_next, cursor_next, found]
  | case3 reader later found => rw [Cursor.rest_of_next, cursor_next, found]

/-- A reader on demand gives the replies of the cursor that it stands for. -/
theorem cursor_ask (reader : Reader) (ask : Ask) :
    reader.cursor.ask ask = ((reader.ask ask).1, (reader.ask ask).2.cursor) := by
  cases ask with
  | next => rw [Cursor.ask, cursor_next, Reader.ask]
  | all => rw [Cursor.ask, cursor_rest, Reader.ask]

/-! ## One step -/

/-- Where a cursor stands once some tokens of a stream were handed out: in front of the others, or at
its end. By then tokens in front of a fault may be lost. -/
inductive Stands (stream : Stream) (given : List Token) : Cursor → Prop
  | inside {pending : List Token} (split : given ++ pending = stream.tokens) :
      Stands stream given ⟨pending, some stream.ending⟩
  | ended (part : given <+: stream.whole) : Stands stream given .spent

theorem Stands.part {stream : Stream} {given : List Token} {cursor : Cursor}
    (h : Stands stream given cursor) : given <+: stream.whole := by
  cases h with
  | inside split => rw [Stream.whole, ← split, List.append_assoc]; exact List.prefix_append _ _
  | ended part => exact part

/-- All that a cursor can do when it is asked, after some tokens of a stream were handed out. -/
inductive Move (stream : Stream) (given : List Token) : Cursor → Ask → Reply × Cursor → Prop
  | pass {token : Token} {pending : List Token} (split : given ++ token :: pending = stream.tokens) :
      Move stream given ⟨token :: pending, some stream.ending⟩ .next
        (.token token, ⟨pending, some stream.ending⟩)
  | close {pending : List Token} {position : Position} {ask : Ask} {reply : Reply}
      (split : given ++ pending = stream.tokens) (eof : stream.ending = .eof position)
      (reply_given : reply.given = pending ++ [.endOfInput position]) :
      Move stream given ⟨pending, some stream.ending⟩ ask (reply, .spent)
  | fail {pending : List Token} {fault : LexFault} {ask : Ask}
      (split : given ++ pending = stream.tokens) (faulty : stream.ending = .fault fault)
      (at_fault : ask = .next → pending = []) :
      Move stream given ⟨pending, some stream.ending⟩ ask (.fault fault, .spent)
  | idle {ask : Ask} (part : given <+: stream.whole) :
      Move stream given .spent ask (ask.exhausted, .spent)

variable {stream : Stream} {given : List Token} {cursor : Cursor}

theorem Stands.move (h : Stands stream given cursor) (ask : Ask) :
    Move stream given cursor ask (cursor.ask ask) := by
  cases h with
  | @inside pending split =>
    obtain ⟨tokens, ending⟩ := stream
    cases ask with
    | next =>
      cases pending with
      | cons token pending => exact .pass split
      | nil =>
        cases ending with
        | eof position => exact .close split rfl rfl
        | fault fault => exact .fail split rfl fun _ => rfl
    | all =>
      cases ending with
      | eof position => exact .close split rfl rfl
      | fault fault => exact .fail split rfl (absurd · (by decide))
  | ended part => cases ask <;> exact .idle part

namespace Move

variable {ask : Ask} {step : Reply × Cursor}

/-- A step hands out what it passes. -/
theorem stands (h : Move stream given cursor ask step) :
    Stands stream (given ++ step.1.given) step.2 := by
  cases h with
  | pass split => exact .inside (by rw [← split]; simp [Reply.given])
  | @close pending position _ reply split eof reply_given =>
    have whole : given ++ reply.given = stream.whole := by
      rw [reply_given, ← List.append_assoc, split, Stream.whole, eof]
    exact .ended (whole ▸ List.prefix_rfl)
  | fail split faulty =>
    refine .ended ?_
    rw [Stream.whole, faulty, ← split]
    simp [Reply.given]
  | idle part =>
    have none : ask.exhausted.given = [] := by cases ask <;> rfl
    dsimp only
    rw [none, List.append_nil]
    exact .ended part

/-- A cursor is at its end after a step iff it was there before or the step delivers the ending. -/
theorem spent_iff (tokens : ∀ token ∈ stream.tokens, token.kind ≠ .eof)
    (h : Move stream given cursor ask step) :
    step.2 = .spent ↔ cursor = .spent ∨ step.1.Ends := by
  cases h with
  | @pass token pending split =>
    have other : token.kind ≠ .eof := tokens token (by simp [← split])
    simp [Cursor.spent, Reply.Ends, Reply.given, other]
  | @close pending position _ reply split eof reply_given =>
    have last : .endOfInput position ∈ reply.given := by rw [reply_given]; simp
    simp [Reply.ends_of_mem last rfl]
  | fail => simp [Reply.Ends]
  | idle => simp

/-- Only a cursor at its end replies that nothing is left. -/
theorem exhausted_iff (h : Move stream given cursor ask step) :
    step.1 = ask.exhausted ↔ cursor = .spent := by
  cases h with
  | pass => simp [Ask.exhausted, Cursor.spent]
  | @close pending position _ reply split eof reply_given =>
    have other : reply ≠ ask.exhausted := by
      rintro rfl
      cases ask <;> simp [Ask.exhausted, Reply.given] at reply_given
    simp [other, Cursor.spent]
  | fail => cases ask <;> simp [Ask.exhausted, Cursor.spent]
  | idle => simp

/-- A fault is delivered at its place: one by one, the tokens that were not handed out lead to it, and
a question for the next token finds none of them left. -/
theorem at_fault {fault : LexFault} (h : Move stream given cursor ask step)
    (found : step.1 = .fault fault) :
    stream.ending = .fault fault ∧ ∃ skipped, Emits cursor skipped fault ∧
      given ++ skipped = stream.tokens ∧ (ask = .next → skipped = []) := by
  cases h with
  | pass => cases found
  | close split eof reply_given =>
    dsimp only at found
    simp [found, Reply.given] at reply_given
  | @fail pending other _ split faulty at_fault =>
    obtain rfl := Reply.fault.inj found
    exact ⟨faulty, pending, emits_iff.2 ⟨rfl, faulty⟩, split, at_fault⟩
  | idle => cases ask <;> cases found

/-- A reply with all that is left completes the tokens, unless the cursor is at its end. -/
theorem at_rest {tokens : List Token} (h : Move stream given cursor ask step)
    (found : step.1 = .tokens tokens) : cursor = .spent ∨ given ++ tokens = stream.whole := by
  cases h with
  | pass => cases found
  | close split eof reply_given =>
    dsimp only at found
    rw [found, Reply.given] at reply_given
    exact .inr (by rw [reply_given, ← List.append_assoc, split, Stream.whole, eof])
  | fail => cases found
  | idle => exact .inl rfl

end Move

/-! ## Any number of steps -/

theorem Stands.after (h : Stands stream given cursor) (asks : List Ask) :
    Stands stream (given ++ handedOut (transcript Cursor.ask cursor asks))
      (stateAfter Cursor.ask cursor asks) := by
  induction asks generalizing given cursor with
  | nil => simpa [transcript, handedOut, stateAfter] using h
  | cons ask asks ih =>
    have step := ih (h.move ask).stands
    rwa [List.append_assoc] at step

/-- A cursor is at its end once a reply has delivered the ending. -/
theorem spent_after_iff (tokens : ∀ token ∈ stream.tokens, token.kind ≠ .eof)
    (h : Stands stream given cursor) (asks : List Ask) :
    stateAfter Cursor.ask cursor asks = .spent ↔
      cursor = .spent ∨ ∃ entry ∈ transcript Cursor.ask cursor asks, entry.2.Ends := by
  induction asks generalizing given cursor with
  | nil => simp [transcript, stateAfter]
  | cons ask asks ih =>
    have step := ih (h.move ask).stands
    rw [(h.move ask).spent_iff tokens, or_assoc] at step
    rw [transcript, List.exists_mem_cons_iff]
    exact step

/-- At its end, a cursor replies that nothing is left, however often it is asked. -/
theorem transcript_spent (asks : List Ask) :
    transcript Cursor.ask .spent asks = asks.map fun ask => (ask, ask.exhausted) := by
  induction asks with
  | nil => rfl
  | cons ask asks ih =>
    rw [List.map_cons, ← ih]
    cases ask <;> rfl

theorem Ask.exhausted_ne_fault (ask : Ask) (fault : LexFault) : ask.exhausted ≠ .fault fault := by
  cases ask <;> simp [Ask.exhausted]

/-- The token that closes a text comes last. -/
theorem eof_last {before after : List Token} {token : Token}
    (tokens : ∀ token ∈ stream.tokens, token.kind ≠ .eof)
    (part : before ++ token :: after <+: stream.whole) (eof : token.kind = .eof) : after = [] := by
  have outside : ¬ before ++ token :: after <+: stream.tokens := fun inside =>
    tokens token (inside.subset (by simp)) eof
  cases ending : stream.ending with
  | fault fault =>
    rw [Stream.whole, ending, List.append_nil] at part
    exact absurd part outside
  | eof position =>
    rw [Stream.whole, ending, List.prefix_concat_iff] at part
    have whole := part.resolve_right outside
    -- with a token behind it, the token would be one of the text
    rcases List.eq_nil_or_concat' after with rfl | ⟨inner, last, rfl⟩
    · rfl
    · rw [← List.cons_append, ← List.append_assoc] at whole
      obtain ⟨inside, -⟩ := List.append_inj' whole rfl
      exact absurd eof (tokens token (by simp [← inside]))

/-- **One pass.** Whatever a cursor on a text is asked, and in whatever order, its replies are those of
a reader that lexes on demand. The tokens handed out are the first tokens of the text, and the one that
closes it comes last. A fault is delivered once, and only where all tokens in front of it are passed;
all that is left is all that was not handed out. A reply says that nothing is left if and only if
the closing token or the fault was delivered before. -/
theorem cursor_one_shot (source : String) (asks : List Ask) :
    let stream := Stream.ofText source
    let replies := transcript Cursor.ask (.ofText source) asks
    replies = transcript Reader.ask (.ofText source) asks ∧
    handedOut replies <+: stream.whole ∧
    (∀ before token after, handedOut replies = before ++ token :: after → token.kind = .eof →
      after = []) ∧
    ∀ early ask reply later, replies = early ++ (ask, reply) :: later →
      (∀ fault, reply = .fault fault →
        stream.ending = .fault fault ∧
        (∃ skipped, handedOut early ++ skipped = stream.tokens ∧ (ask = .next → skipped = []) ∧
          Emits (stateAfter Cursor.ask (.ofText source) (early.map (·.1))) skipped fault) ∧
        ∀ entry ∈ early ++ later, ∀ other, entry.2 ≠ .fault other) ∧
      (∀ tokens, reply = .tokens tokens → tokens ≠ [] → handedOut early ++ tokens = stream.whole) ∧
      (reply = ask.exhausted ↔ ∃ entry ∈ early, entry.2.Ends) := by
  intro stream replies
  have tokens : ∀ token ∈ stream.tokens, token.kind ≠ .eof := fun token =>
    kind_ne_eof_of_mem_ofText
  have start : Stands stream [] (.ofText source) := .inside rfl
  have part : handedOut replies <+: stream.whole := (start.after asks).part
  refine ⟨transcript_eq_of_view Reader.cursor cursor_ask (.ofText source) asks, part, ?_, ?_⟩
  · intro before token after split eof
    exact eof_last tokens (split ▸ part) eof
  · intro early ask reply later split
    obtain ⟨before, after, rfl, asked, rfl, rfl⟩ := transcript_split split
    have stands := start.after before
    have move := stands.move ask
    have ended := spent_after_iff tokens start before
    rw [or_iff_right (by simp [Cursor.ofText, Cursor.spent])] at ended
    have exhausted := move.exhausted_iff.trans ended
    refine ⟨?_, ?_, exhausted⟩
    · intro fault found
      obtain ⟨faulty, skipped, emits, passed, next⟩ := move.at_fault found
      refine ⟨faulty, ⟨skipped, passed, next, asked ▸ emits⟩, ?_⟩
      intro entry hm other again
      rcases List.mem_append.1 hm with hm | hm
      · have closed := exhausted.2 ⟨entry, hm, by rw [again]; trivial⟩
        exact ask.exhausted_ne_fault fault (closed.symm.trans found)
      · rw [(move.spent_iff tokens).2 (.inr (by rw [found]; trivial)), transcript_spent] at hm
        obtain ⟨question, -, rfl⟩ := List.mem_map.1 hm
        exact question.exhausted_ne_fault other again
    · intro rest found nonempty
      refine (move.at_rest found).resolve_left fun closed => nonempty ?_
      have reply := move.exhausted_iff.2 closed
      rw [found] at reply
      cases ask with
      | next => cases reply
      | all => exact Reply.tokens.inj reply

/-- Two words in front of an open string: asked for one and then for all, a cursor loses the second
word to the fault, and has nothing left. -/
theorem cursor_one_shot_at_open_string :
    let asks := [Ask.next, .all, .next, .all]
    transcript Cursor.ask (.ofText "a b \"") asks =
      [(.next, .token ⟨.identifier, "a", ⟨1, 1⟩⟩),
        (.all, .fault ⟨⟨1, 5⟩, "\"", .unterminatedString⟩), (.next, .stop), (.all, .tokens [])] ∧
    Emits (stateAfter Cursor.ask (.ofText "a b \"") [.next]) [⟨.identifier, "b", ⟨1, 3⟩⟩]
      ⟨⟨1, 5⟩, "\"", .unterminatedString⟩ := by
  intro asks
  have stream : Stream.ofText "a b \"" = ⟨[⟨.identifier, "a", ⟨1, 1⟩⟩, ⟨.identifier, "b", ⟨1, 3⟩⟩],
      .fault ⟨⟨1, 5⟩, "\"", .unterminatedString⟩⟩ := by
    decide +kernel
  have replies : transcript Cursor.ask (.ofText "a b \"") asks =
      [(.next, .token ⟨.identifier, "a", ⟨1, 1⟩⟩)] ++
        (.all, .fault ⟨⟨1, 5⟩, "\"", .unterminatedString⟩) :: [(.next, .stop), (.all, .tokens [])] := by
    rw [Cursor.ofText, stream]
    rfl
  obtain ⟨-, -, -, steps⟩ := cursor_one_shot "a b \"" asks
  obtain ⟨faulty, -, -⟩ := steps _ _ _ _ replies
  obtain ⟨-, ⟨skipped, passed, -, emits⟩, -⟩ := faulty _ rfl
  rw [stream] at passed
  obtain rfl := (List.cons.inj passed).2
  exact ⟨replies, emits⟩

end HttpSuite
