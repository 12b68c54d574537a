import Gputeer.Lib.Trace

/-! Programs that ask another party, which may answer anything. An observer follows the exchanges; a
dialogue holds when every question is one that it may ask in what was observed so far, and when its result
is right in what was observed at the end. -/

/-- A program that asks questions, each with its own kind of answer, and ends. -/
inductive Dialogue (Question : Type) (Answer : Question → Type) (α : Type) where
  | done (result : α)
  | ask (question : Question) (next : Answer question → Dialogue Question Answer α)

namespace Dialogue

variable {Question : Type} {Answer : Question → Type} {α β : Type}

/-- A question, and the answer that came. -/
abbrev Exchange (Question : Type) (Answer : Question → Type) := (question : Question) × Answer question

def bind : Dialogue Question Answer α → (α → Dialogue Question Answer β) → Dialogue Question Answer β
  | done result, next => next result
  | ask question rest, next => ask question fun answer => (rest answer).bind next

instance : Monad (Dialogue Question Answer) where
  pure := done
  bind := bind

def question (asked : Question) : Dialogue Question Answer (Answer asked) := ask asked done

/-- The exchanges and the result, with someone who answers as they like, by what was said before. -/
def run (answers : List (Exchange Question Answer) → (asked : Question) → Answer asked) :
    List (Exchange Question Answer) → Dialogue Question Answer α → List (Exchange Question Answer) × α
  | said, done result => (said, result)
  | said, ask asked next => run answers (said ++ [⟨asked, answers said asked⟩]) (next (answers said asked))

/-- The `?` of a fallible step: what follows it, or its error. -/
def andThen {Error : Type} (step : Dialogue Question Answer (Except Error α))
    (next : α → Dialogue Question Answer (Except Error β)) : Dialogue Question Answer (Except Error β) := do
  match ← step with
  | .ok value => next value
  | .error error => pure (.error error)

theorem andThen_assoc {γ Error : Type} (step : Dialogue Question Answer (Except Error α))
    (next : α → Dialogue Question Answer (Except Error β)) (last : β → Dialogue Question Answer (Except Error γ)) :
    (step.andThen next).andThen last = step.andThen fun value => (next value).andThen last := by
  induction step with
  | done result =>
      cases result with
      | ok value => rfl
      | error error => rfl
  | ask asked following ih => exact congrArg (ask asked) (funext ih)

section Served

variable {State : Type} (answer : State → (asked : Question) → Answer asked)
  (effect : State → Exchange Question Answer → State)

/-- The end of the program, and of the one who answers it by its state. -/
def serve : State → Dialogue Question Answer α → State × α
  | state, done result => (state, result)
  | state, ask asked next =>
      serve (effect state ⟨asked, answer state asked⟩) (next (answer state asked))

variable {answer} {effect} {state : State}

@[simp] theorem serve_pure (result : α) :
    serve answer effect state (pure result : Dialogue Question Answer α) = (state, result) := rfl

@[simp] theorem serve_question (asked : Question) :
    serve answer effect state (question asked : Dialogue Question Answer (Answer asked)) =
      (effect state ⟨asked, answer state asked⟩, answer state asked) := rfl

@[simp] theorem serve_bind (dialogue : Dialogue Question Answer α) (next : α → Dialogue Question Answer β) :
    serve answer effect state (dialogue >>= next) =
      serve answer effect (serve answer effect state dialogue).1
        (next (serve answer effect state dialogue).2) := by
  induction dialogue generalizing state with
  | done result => rfl
  | ask asked following ih => exact ih _

@[simp] theorem serve_map (f : α → β) (dialogue : Dialogue Question Answer α) :
    serve answer effect state (f <$> dialogue) =
      ((serve answer effect state dialogue).1, f (serve answer effect state dialogue).2) :=
  serve_bind dialogue fun result => pure (f result)

theorem serve_andThen {Error : Type} (step : Dialogue Question Answer (Except Error α))
    (next : α → Dialogue Question Answer (Except Error β)) :
    serve answer effect state (step.andThen next) =
      match (serve answer effect state step).2 with
      | .ok value => serve answer effect (serve answer effect state step).1 (next value)
      | .error error => ((serve answer effect state step).1, .error error) := by
  unfold andThen
  rw [serve_bind]
  cases (serve answer effect state step).2 with
  | ok value => rfl
  | error error => rfl

end Served

variable {Seen : Type} (observe : Seen → Exchange Question Answer → Seen) (may : Seen → Question → Prop)

def Holds (post : Seen → α → Prop) : Seen → Dialogue Question Answer α → Prop
  | seen, done result => post seen result
  | seen, ask asked next =>
      may seen asked ∧ ∀ answer, Holds post (observe seen ⟨asked, answer⟩) (next answer)

variable {observe} {may} {post : Seen → α → Prop} {seen : Seen} {dialogue : Dialogue Question Answer α}

theorem holds_pure {result : α} (right : post seen result) :
    Holds observe may post seen (pure result : Dialogue Question Answer α) := right

theorem holds_question {asked : Question} {post : Seen → Answer asked → Prop} (asks : may seen asked)
    (right : ∀ answer, post (observe seen ⟨asked, answer⟩) answer) :
    Holds observe may post seen (question asked : Dialogue Question Answer (Answer asked)) :=
  ⟨asks, right⟩

/-- The rule of a question and what follows its answer. -/
theorem holds_question_bind {asked : Question} {next : Answer asked → Dialogue Question Answer α}
    (asks : may seen asked)
    (rest : ∀ answer, Holds observe may post (observe seen ⟨asked, answer⟩) (next answer)) :
    Holds observe may post seen (question asked >>= next) :=
  ⟨asks, rest⟩

/-- The rule of sequence. -/
theorem Holds.bind {middle : Seen → α → Prop} {post : Seen → β → Prop}
    {next : α → Dialogue Question Answer β} (first : Holds observe may middle seen dialogue)
    (rest : ∀ seen result, middle seen result → Holds observe may post seen (next result)) :
    Holds observe may post seen (dialogue >>= next) := by
  induction dialogue generalizing seen with
  | done result => exact rest seen result first
  | ask asked following ih => exact ⟨first.1, fun answer => ih answer (first.2 answer)⟩

theorem Holds.map {post : Seen → β → Prop} {f : α → β}
    (holds : Holds observe may (fun seen result => post seen (f result)) seen dialogue) :
    Holds observe may post seen (f <$> dialogue) :=
  holds.bind fun _ _ right => right

/-- The rule of consequence. -/
theorem Holds.mono {weaker : Seen → α → Prop} (holds : Holds observe may post seen dialogue)
    (implies : ∀ seen result, post seen result → weaker seen result) :
    Holds observe may weaker seen dialogue := by
  induction dialogue generalizing seen with
  | done result => exact implies seen result holds
  | ask asked following ih => exact ⟨holds.1, fun answer => ih answer (holds.2 answer)⟩

/-- Whatever the answers, only such questions are asked. -/
abbrev Asks (may : Question → Prop) (dialogue : Dialogue Question Answer α) : Prop :=
  Holds (fun (_ : Unit) _ => ()) (fun _ => may) (fun _ _ => True) () dialogue

section Asking

variable {may : Question → Prop}

theorem asks_pure (result : α) : Asks may (pure result : Dialogue Question Answer α) := trivial

theorem asks_question {asked : Question} (asks : may asked) :
    Asks may (question asked : Dialogue Question Answer (Answer asked)) :=
  ⟨asks, fun _ => trivial⟩

theorem Asks.bind {next : α → Dialogue Question Answer β} (first : Asks may dialogue)
    (rest : ∀ result, Asks may (next result)) : Asks may (dialogue >>= next) :=
  Holds.bind first fun _ result _ => rest result

theorem Asks.map {f : α → β} (asks : Asks may dialogue) : Asks may (f <$> dialogue) :=
  asks.bind fun _ => trivial

theorem Asks.andThen {Error : Type} {step : Dialogue Question Answer (Except Error α)}
    {next : α → Dialogue Question Answer (Except Error β)} (first : Asks may step)
    (rest : ∀ value, Asks may (next value)) : Asks may (step.andThen next) := by
  refine Asks.bind first fun result => ?_
  cases result with
  | ok value => exact rest value
  | error error => exact asks_pure _

theorem Asks.mono {weaker : Question → Prop} (asks : Asks may dialogue)
    (implies : ∀ asked, may asked → weaker asked) : Asks weaker dialogue := by
  induction dialogue with
  | done result => trivial
  | ask asked following ih => exact ⟨implies asked asks.1, fun answer => ih answer (asks.2 answer)⟩

theorem asks_any (dialogue : Dialogue Question Answer α) : Asks (fun _ => True) dialogue := by
  induction dialogue with
  | done result => trivial
  | ask asked following ih => exact ⟨trivial, ih⟩

/-- Whatever the answers, only such questions are asked, and such is the result. -/
abbrev Ends (may : Question → Prop) (post : α → Prop) (dialogue : Dialogue Question Answer α) : Prop :=
  Holds (fun (_ : Unit) _ => ()) (fun _ => may) (fun _ => post) () dialogue

theorem Ends.bind {middle : α → Prop} {post : β → Prop} {next : α → Dialogue Question Answer β}
    (first : Ends may middle dialogue) (rest : ∀ result, middle result → Ends may post (next result)) :
    Ends may post (dialogue >>= next) :=
  Holds.bind first fun _ => rest

theorem Asks.bind_ends {post : β → Prop} {next : α → Dialogue Question Answer β} (first : Asks may dialogue)
    (rest : ∀ result, Ends may post (next result)) : Ends may post (dialogue >>= next) :=
  Holds.bind first fun _ result _ => rest result

theorem Asks.andThen_ends {Error : Type} {post : Except Error β → Prop}
    {step : Dialogue Question Answer (Except Error α)}
    {next : α → Dialogue Question Answer (Except Error β)} (first : Asks may step)
    (failed : ∀ error, post (.error error)) (rest : ∀ value, Ends may post (next value)) :
    Ends may post (step.andThen next) := by
  refine Asks.bind_ends first fun result => ?_
  cases result with
  | ok value => exact rest value
  | error error => exact failed error

/-- Every question of a conversation was one that might be asked. -/
theorem Asks.said {answers : List (Exchange Question Answer) → (asked : Question) → Answer asked}
    (asks : Asks may dialogue) : ∀ exchange ∈ (Dialogue.run answers [] dialogue).1, may exchange.1 := by
  suffices later : ∀ said, (∀ exchange ∈ said, may exchange.1) →
      ∀ exchange ∈ (Dialogue.run answers said dialogue).1, may exchange.1 from
    later [] fun _ no => by cases no
  intro said allowed
  induction dialogue generalizing said with
  | done result => exact allowed
  | ask asked following ih =>
      refine ih _ (asks.2 _) _ fun exchange listed => ?_
      rcases List.mem_append.mp listed with before | last
      · exact allowed exchange before
      · rw [List.mem_singleton.mp last]
        exact asks.1

/-- What no question touches is at the end as it was. -/
theorem Asks.serve_keeps {State : Type} {answer : State → (asked : Question) → Answer asked}
    {effect : State → Exchange Question Answer → State} {Kept : State → State → Prop}
    (refl : ∀ state, Kept state state)
    (step : ∀ first state asked answered, may asked → Kept first state →
      Kept first (effect state ⟨asked, answered⟩))
    {state : State} (asks : Asks may dialogue) : Kept state (serve answer effect state dialogue).1 := by
  suffices further : ∀ first, Kept first state → Kept first (serve answer effect state dialogue).1 from
    further state (refl state)
  intro first kept
  induction dialogue generalizing state with
  | done result => exact kept
  | ask asked following ih => exact ih _ (asks.2 _) (step first state asked _ asks.1 kept)

end Asking

section Runs

variable {answers : List (Exchange Question Answer) → (asked : Question) → Answer asked} {start : Seen}

/-- What follows hears what was said before. -/
theorem run_bind (next : α → Dialogue Question Answer β) (said : List (Exchange Question Answer)) :
    Dialogue.run answers said (dialogue >>= next) =
      Dialogue.run answers (Dialogue.run answers said dialogue).1
        (next (Dialogue.run answers said dialogue).2) := by
  induction dialogue generalizing said with
  | done result => rfl
  | ask question following ih => exact ih _ _

/-- Whoever answers: each question was one that the dialogue might ask, and the result is right. -/
theorem Holds.run {said : List (Exchange Question Answer)}
    (holds : Holds observe may post (Trace.run observe start said) dialogue)
    (asked : ∀ before exchange, Trace.Took said before exchange →
      may (Trace.run observe start before) exchange.1) :
    (∀ before exchange, Trace.Took (Dialogue.run answers said dialogue).1 before exchange →
      may (Trace.run observe start before) exchange.1) ∧
    post (Trace.run observe start (Dialogue.run answers said dialogue).1)
      (Dialogue.run answers said dialogue).2 := by
  induction dialogue generalizing said with
  | done result => exact ⟨asked, holds⟩
  | ask question next ih =>
      have after := holds.2 (answers said question)
      have observed : observe (Trace.run observe start said) ⟨question, answers said question⟩ =
          Trace.run observe start (said ++ [⟨question, answers said question⟩]) :=
        (Trace.run_snoc said _).symm
      rw [observed] at after
      refine ih _ after ?_
      intro before exchange took
      rcases Trace.took_snoc.mp took with earlier | ⟨rfl, rfl⟩
      · exact asked before exchange earlier
      · exact holds.1

end Runs

section World

variable {World : Type} (happens : World → Exchange Question Answer → World → Prop)

/-- What may become of the world while this is said. -/
inductive Unfolds : World → List (Exchange Question Answer) → World → Prop where
  | nil (world : World) : Unfolds world [] world
  | snoc {world between later : World} {said : List (Exchange Question Answer)}
      {exchange : Exchange Question Answer} (before : Unfolds world said between)
      (last : happens between exchange later) : Unfolds world (said ++ [exchange]) later

/-- What the observer knows of the world stays true of it. -/
theorem Unfolds.agrees {happens : World → Exchange Question Answer → World → Prop}
    {Agrees : Seen → World → Prop} {start : Seen} {world later : World}
    {said : List (Exchange Question Answer)} (unfolds : Unfolds happens world said later)
    (agrees : Agrees start world)
    (kept : ∀ seen between exchange next, Agrees seen between → happens between exchange next →
      Agrees (observe seen exchange) next) : Agrees (Trace.run observe start said) later := by
  induction unfolds with
  | nil => exact agrees
  | snoc before last ih =>
      rw [Trace.run_snoc]
      exact kept _ _ _ _ ih last

/-- How far a program may have come when it is stopped. -/
inductive Passes : World → Dialogue Question Answer α → World → Prop where
  | stop {world : World} {dialogue : Dialogue Question Answer α} : Passes world dialogue world
  | ask {world between later : World} {asked : Question} {answered : Answer asked}
      {next : Answer asked → Dialogue Question Answer α} (went : happens world ⟨asked, answered⟩ between)
      (rest : Passes between (next answered) later) : Passes world (.ask asked next) later

/-- Whatever happens, the world is such at every moment, and the result is right in the world at the end. -/
def Secures (inv : World → Prop) (post : World → α → Prop) : World → Dialogue Question Answer α → Prop
  | world, done result => post world result
  | world, ask asked next =>
      ∀ answered later, happens world ⟨asked, answered⟩ later → inv later ∧ Secures inv post later (next answered)

/-- The world when the one who answers it by what it is answers no more. -/
def serveWhile (answer : World → (asked : Question) → Option (Answer asked))
    (effect : World → Exchange Question Answer → World) : World → Dialogue Question Answer α → World
  | world, done _ => world
  | world, ask asked next =>
      match answer world asked with
      | some answered => serveWhile answer effect (effect world ⟨asked, answered⟩) (next answered)
      | none => world

variable {happens} {inv : World → Prop} {post : World → α → Prop} {world : World}

theorem passes_serveWhile {answer : World → (asked : Question) → Option (Answer asked)}
    {effect : World → Exchange Question Answer → World}
    (true_ : ∀ world asked answered, answer world asked = some answered →
      happens world ⟨asked, answered⟩ (effect world ⟨asked, answered⟩)) :
    Passes happens world dialogue (serveWhile answer effect world dialogue) := by
  induction dialogue generalizing world with
  | done result => exact .stop
  | ask asked next ih =>
      rw [serveWhile]
      split
      · next answered said => exact .ask (true_ world asked answered said) (ih answered)
      · exact .stop

theorem secures_pure {result : α} (right : post world result) :
    Secures happens inv post world (pure result : Dialogue Question Answer α) := right

theorem secures_question {asked : Question} {post : World → Answer asked → Prop}
    (went : ∀ answered later, happens world ⟨asked, answered⟩ later → inv later ∧ post later answered) :
    Secures happens inv post world (question asked : Dialogue Question Answer (Answer asked)) := went

theorem Secures.bind {middle : World → α → Prop} {post : World → β → Prop}
    {next : α → Dialogue Question Answer β} (first : Secures happens inv middle world dialogue)
    (rest : ∀ world result, middle world result → Secures happens inv post world (next result)) :
    Secures happens inv post world (dialogue >>= next) := by
  induction dialogue generalizing world with
  | done result => exact rest world result first
  | ask asked following ih =>
      intro answered later went
      obtain ⟨safe, after⟩ := first answered later went
      exact ⟨safe, ih answered after⟩

theorem Secures.map {post : World → β → Prop} {f : α → β}
    (secures : Secures happens inv (fun world result => post world (f result)) world dialogue) :
    Secures happens inv post world (f <$> dialogue) :=
  secures.bind fun _ _ right => right

theorem Secures.mono {weaker : World → α → Prop} (secures : Secures happens inv post world dialogue)
    (implies : ∀ world result, post world result → weaker world result) :
    Secures happens inv weaker world dialogue := by
  induction dialogue generalizing world with
  | done result => exact implies world result secures
  | ask asked following ih =>
      intro answered later went
      obtain ⟨safe, after⟩ := secures answered later went
      exact ⟨safe, ih answered after⟩

/-- The rule of the `?`. -/
theorem Secures.andThen {Error : Type} {middle : World → Except Error α → Prop} {post : World → Except Error β → Prop}
    {step : Dialogue Question Answer (Except Error α)} {next : α → Dialogue Question Answer (Except Error β)}
    (first : Secures happens inv middle world step)
    (failed : ∀ world error, middle world (.error error) → post world (.error error))
    (rest : ∀ world value, middle world (.ok value) → Secures happens inv post world (next value)) :
    Secures happens inv post world (step.andThen next) := by
  refine first.bind fun later result right => ?_
  cases result with
  | ok value => exact rest later value right
  | error error => exact failed later error right

/-- Wherever it is stopped. -/
theorem Secures.passes {later : World} (secures : Secures happens inv post world dialogue) (safe : inv world)
    (passes : Passes happens world dialogue later) : inv later := by
  induction passes with
  | stop => exact safe
  | ask went rest ih =>
      obtain ⟨still, after⟩ := secures _ _ went
      exact ih after still

end World

end Dialogue
