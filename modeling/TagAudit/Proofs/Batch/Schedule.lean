import TagAudit.Proofs.Analysis.Inquiry
import TagAudit.Proofs.Batch.Summary

/-!
# Batches under every schedule (`BatchWorker.run_batch`)

The files of a batch begin in their order, are analyzed side by side, a limited number at a time,
and all analyses share one memory of conditions with everything else that runs. A schedule says who
comes next. Each step keeps what every job will come to, and each turn brings the batch nearer to
its end, so whatever the schedule, the batch ends with the report of the files analyzed one by one,
or breaks off at the first file whose content cannot be encoded.
-/

namespace TagAudit.Batch

open Expression (SyntaxFault Cache parse)
open Rule (MatchOptions)
open Text (Unencodable)

/-! ### Workers and their states -/

/-- What runs batches. An analysis may break off with a reason. -/
structure Worker where
  analyze : File → Option MatchOptions → Inquiry (Except String Analysis)
  concurrency : Int
  limit : Int

inductive Stage where
  | created
  /-- The file is neither too large nor being analyzed. -/
  | waiting (file : File)
  | running (file : File) (rest : Inquiry (Except String Analysis))
  /-- A condition that the memory does not hold is being parsed. -/
  | parsing (file : File) (text : String)
    (resume : Except SyntaxFault Expression → Inquiry (Except String Analysis))
  | finished (result : FileResult)
  /-- The content could not be encoded, and nobody took care of it. -/
  | broken (fault : Unencodable)

structure Job where
  input : Input
  stage : Stage

/-- A batch on its way, and the memory that it shares. -/
structure State where
  jobs : List Job
  memory : Cache

def State.start (inputs : List Input) : State :=
  ⟨inputs.map fun input => ⟨input, .created⟩, .empty⟩

def Job.hasBegun (job : Job) : Bool :=
  match job.stage with
  | .created => false
  | _ => true

def Job.isActive (job : Job) : Bool :=
  match job.stage with
  | .running _ _ => true
  | .parsing _ _ _ => true
  | _ => false

def State.active (s : State) : Nat := s.jobs.countP Job.isActive

def settle (file : File) : Except String Analysis → FileResult
  | .ok analysis => .analyzed analysis
  | .error reason => .failed file.path reason

/-- How a file begins: its content is encoded, and it is rejected if it is too large. -/
def Worker.begin (w : Worker) (input : Input) : Stage :=
  match input.file with
  | .error fault => .broken fault
  | .ok file =>
    if exceeds w.limit file.content then .finished (.rejected file.path w.limit) else .waiting file

/-- What comes next for a file, and the memory after it. A file begins when it is `called`, which
is when those before it have begun. Its analysis starts when fewer files than allowed are being
analyzed. -/
def Worker.advance (w : Worker) (options : Option MatchOptions) (called : Bool) (active : Nat)
    (memory : Cache) (job : Job) : Option (Stage × Cache) :=
  match job.stage with
  | .created => if called then some (w.begin job.input, memory) else none
  | .waiting file =>
    if (active : Int) < effectiveConcurrency w.concurrency then
      some (.running file (w.analyze file options), memory)
    else none
  | .running file (.done outcome) => some (.finished (settle file outcome), memory)
  | .running file (.ask text resume) =>
    match memory.probe text with
    | (some e, memory) => some (.running file (resume (.ok e)), memory)
    | (none, memory) => some (.parsing file text resume, memory)
  | .parsing file text resume =>
    some (.running file (resume (parse text)), memory.learn text (parse text))
  | .finished _ => none
  | .broken _ => none

/-- What can happen next: the turn of a file, or an access to the memory by something else. -/
inductive Event where
  | turn (index : Nat)
  | probe (text : String)
  | learn (text : String)
  | clear
  deriving DecidableEq, Repr

def Event.isTurn : Event → Bool
  | .turn _ => true
  | _ => false

/-- The state after an event. A file that cannot go on has no turn. -/
def Worker.step (w : Worker) (options : Option MatchOptions) (s : State) : Event → Option State
  | .turn index =>
    match s.jobs[index]? with
    | none => none
    | some job =>
      let called := (s.jobs.take index).all Job.hasBegun
      (w.advance options called s.active s.memory job).map fun next =>
        ⟨s.jobs.set index ⟨job.input, next.1⟩, next.2⟩
  | .probe text => some { s with memory := (s.memory.probe text).2 }
  | .learn text => some { s with memory := s.memory.learn text (parse text) }
  | .clear => some { s with memory := .empty }

def Worker.follow (w : Worker) (options : Option MatchOptions) (s : State) :
    List Event → Option State
  | [] => some s
  | event :: rest => (w.step options s event).bind fun s => w.follow options s rest

section Steps

variable (w : Worker) (options : Option MatchOptions)

/-- All the ways in which a file goes on. -/
theorem Worker.advance_cases {called : Bool} {active : Nat} {memory memory' : Cache} {job : Job}
    {stage : Stage} (h : w.advance options called active memory job = some (stage, memory')) :
    (job.stage = .created ∧ called = true ∧ stage = w.begin job.input ∧ memory' = memory) ∨
    (∃ file, job.stage = .waiting file ∧
      (active : Int) < effectiveConcurrency w.concurrency ∧
      stage = .running file (w.analyze file options) ∧ memory' = memory) ∨
    (∃ file outcome, job.stage = .running file (.done outcome) ∧
      stage = .finished (settle file outcome) ∧ memory' = memory) ∨
    (∃ file text resume e, job.stage = .running file (.ask text resume) ∧
      memory.probe text = (some e, memory') ∧ stage = .running file (resume (.ok e))) ∨
    (∃ file text resume, job.stage = .running file (.ask text resume) ∧
      memory.probe text = (none, memory') ∧ stage = .parsing file text resume) ∨
    (∃ file text resume, job.stage = .parsing file text resume ∧
      stage = .running file (resume (parse text)) ∧
      memory' = memory.learn text (parse text)) := by
  unfold Worker.advance at h
  split at h
  · rename_i hstage
    split at h
    · rename_i hcalled
      cases h
      exact .inl ⟨hstage, hcalled, rfl, rfl⟩
    · cases h
  · rename_i file hstage
    split at h
    · rename_i hfree
      cases h
      exact .inr (.inl ⟨file, hstage, hfree, rfl, rfl⟩)
    · cases h
  · rename_i file outcome hstage
    cases h
    exact .inr (.inr (.inl ⟨file, outcome, hstage, rfl, rfl⟩))
  · rename_i file text resume hstage
    split at h
    · rename_i e found hprobe
      cases h
      exact .inr (.inr (.inr (.inl ⟨file, text, resume, e, hstage, hprobe, rfl⟩)))
    · rename_i missed hprobe
      cases h
      exact .inr (.inr (.inr (.inr (.inl ⟨file, text, resume, hstage, hprobe, rfl⟩))))
  · rename_i file text resume hstage
    cases h
    exact .inr (.inr (.inr (.inr (.inr ⟨file, text, resume, hstage, rfl, rfl⟩))))
  · cases h
  · cases h

/-- The turn of a file changes this file and the memory, and nothing else. -/
theorem Worker.step_turn {s s' : State} {index : Nat}
    (h : w.step options s (.turn index) = some s') :
    ∃ before job after stage, s.jobs = before ++ job :: after ∧
      w.advance options (before.all Job.hasBegun) s.active s.memory job =
        some (stage, s'.memory) ∧
      s'.jobs = before ++ ⟨job.input, stage⟩ :: after := by
  cases hjob : s.jobs[index]? with
  | none =>
    simp only [Worker.step, hjob] at h
    cases h
  | some job =>
    simp only [Worker.step, hjob] at h
    obtain ⟨⟨stage, memory⟩, hadvance, rfl⟩ := Option.map_eq_some_iff.1 h
    obtain ⟨hindex, hget⟩ := List.getElem?_eq_some_iff.1 hjob
    refine ⟨s.jobs.take index, job, s.jobs.drop (index + 1), stage, ?_, hadvance, ?_⟩
    · rw [← hget, ← List.drop_eq_getElem_cons hindex, List.take_append_drop]
    · rw [List.set_eq_take_append_cons_drop, if_pos hindex]

/-- The analysis of a file when every condition is parsed. -/
def Worker.direct (file : File) : Except String Analysis := (w.analyze file options).value

def Worker.resultOf (file : File) : FileResult := runFile (w.direct options) w.limit file

theorem Worker.resultOf_of_large {file : File} (h : exceeds w.limit file.content = true) :
    w.resultOf options file = .rejected file.path w.limit := by
  rw [Worker.resultOf, runFile, if_pos h]

theorem Worker.resultOf_of_small {file : File} (h : exceeds w.limit file.content = false) :
    w.resultOf options file = settle file (w.direct options file) := by
  rw [Worker.resultOf, runFile, if_neg (by simp [h])]
  cases w.direct options file <;> rfl

/-- The file of a job that waits for its analysis or is being analyzed. -/
def Job.Admits (job : Job) (file : File) : Prop :=
  job.input.file = .ok file ∧ exceeds w.limit file.content = false

/-- A file is on its way to what comes of it by itself. -/
def Job.Sound (job : Job) : Prop :=
  match job.stage with
  | .created => True
  | .waiting file => job.Admits w file
  | .running file rest => job.Admits w file ∧ rest.value = w.direct options file
  | .parsing file text resume =>
    job.Admits w file ∧ (resume (parse text)).value = w.direct options file
  | .finished result => ∃ file, job.input.file = .ok file ∧ result = w.resultOf options file
  | .broken fault => job.input.file = .error fault

/-- The number of turns that a file which has not begun needs at most. -/
def Worker.turns (input : Input) : Nat :=
  match input.file with
  | .error _ => 1
  | .ok file => 2 * (w.analyze file options).length + 3

/-- The number of turns that a file still needs at most. -/
def Job.cost (job : Job) : Nat :=
  match job.stage with
  | .created => w.turns options job.input
  | .waiting file => 2 * (w.analyze file options).length + 2
  | .running _ rest => 2 * rest.length + 1
  | .parsing _ text resume => 2 * (resume (parse text)).length + 2
  | .finished _ => 0
  | .broken _ => 0

def State.cost (s : State) : Nat := sumOf (Job.cost w options) s.jobs

/-- How a file begins decides its fate, unless it is to be analyzed. -/
theorem Worker.begin_sound (input : Input) :
    Job.Sound w options ⟨input, w.begin input⟩ ∧
      Job.cost w options ⟨input, w.begin input⟩ < w.turns options input ∧
      Job.isActive ⟨input, w.begin input⟩ = false ∧
      Job.hasBegun ⟨input, w.begin input⟩ = true := by
  unfold Worker.begin Worker.turns
  cases hfile : input.file with
  | error fault => exact ⟨hfile, Nat.one_pos, rfl, rfl⟩
  | ok file =>
    dsimp only
    by_cases hlarge : exceeds w.limit file.content = true
    · rw [if_pos hlarge]
      refine ⟨⟨file, hfile, (w.resultOf_of_large options hlarge).symm⟩, ?_, rfl, rfl⟩
      simp only [Job.cost]
      omega
    · rw [if_neg hlarge]
      refine ⟨⟨hfile, by simpa using hlarge⟩, ?_, rfl, rfl⟩
      simp only [Job.cost]
      omega

/-- One turn of a file: it stays on its way and comes nearer to its end, it begins only if it is
called and becomes active only if there is room, and the memory stays sound. -/
theorem Worker.advance_sound {called : Bool} {active : Nat} {memory memory' : Cache} {job : Job}
    {stage : Stage} (h : w.advance options called active memory job = some (stage, memory'))
    (hmemory : memory.Sound) (hjob : job.Sound w options) :
    memory'.Sound ∧ Job.Sound w options ⟨job.input, stage⟩ ∧
      Job.cost w options ⟨job.input, stage⟩ < job.cost w options ∧
      (Job.isActive ⟨job.input, stage⟩ = true → job.isActive = true ∨
        (active : Int) < effectiveConcurrency w.concurrency) ∧
      (job.hasBegun = true ∨ called = true) ∧ Job.hasBegun ⟨job.input, stage⟩ = true := by
  obtain ⟨input, current⟩ := job
  rcases w.advance_cases options h with ⟨hstage, hcalled, rfl, rfl⟩ |
    ⟨file, hstage, hfree, rfl, rfl⟩ | ⟨file, outcome, hstage, rfl, rfl⟩ |
    ⟨file, text, resume, e, hstage, hprobe, rfl⟩ | ⟨file, text, resume, hstage, hprobe, rfl⟩ |
    ⟨file, text, resume, hstage, rfl, rfl⟩ <;> dsimp only at hstage <;> subst hstage
  · obtain ⟨hsound, hcost, hidle, hbegun⟩ := w.begin_sound options input
    refine ⟨hmemory, hsound, hcost, ?_, .inr hcalled, hbegun⟩
    intro hactive
    rw [hidle] at hactive
    cases hactive
  · refine ⟨hmemory, ⟨hjob, rfl⟩, ?_, fun _ => .inr hfree, .inl rfl, rfl⟩
    simp only [Job.cost]
    omega
  · obtain ⟨⟨hfile, hsmall⟩, hvalue⟩ := hjob
    have hresult : settle file outcome = w.resultOf options file := by
      rw [w.resultOf_of_small options hsmall, ← hvalue]
      rfl
    refine ⟨hmemory, ⟨file, hfile, hresult⟩, ?_, fun hnow => (nomatch hnow), .inl rfl, rfl⟩
    simp only [Job.cost]
    omega
  · -- The condition found is the one that the text writes, so the inquiry goes on as if parsing.
    have hparse := hmemory.parse_of_probe text (congrArg Prod.fst hprobe)
    have hafter := hmemory.probe text
    rw [hprobe] at hafter
    obtain ⟨hadmits, hvalue⟩ := hjob
    rw [Inquiry.value, hparse] at hvalue
    refine ⟨hafter, ⟨hadmits, hvalue⟩, ?_, fun _ => .inl rfl, .inl rfl, rfl⟩
    simp only [Job.cost, Inquiry.length, hparse]
    omega
  · have hafter := hmemory.probe text
    rw [hprobe] at hafter
    refine ⟨hafter, hjob, ?_, fun _ => .inl rfl, .inl rfl, rfl⟩
    simp only [Job.cost, Inquiry.length]
    omega
  · refine ⟨hmemory.learn text, hjob, ?_, fun _ => .inl rfl, .inl rfl, rfl⟩
    simp only [Job.cost]
    omega

/-- What holds of a batch at every moment. -/
structure State.Valid (inputs : List Input) (s : State) : Prop where
  inputs : s.jobs.map Job.input = inputs
  jobs : ∀ job ∈ s.jobs, job.Sound w options
  /-- The files begin in their order. -/
  order : s.jobs.Pairwise fun earlier later => later.hasBegun = true → earlier.hasBegun = true
  memory : s.memory.Sound
  permits : (s.active : Int) ≤ effectiveConcurrency w.concurrency

variable {w options} {inputs : List Input}

/-- A file that begins when those before it have begun keeps the order. -/
theorem order_of_begun {before after : List Job} {job job' : Job}
    (h : (before ++ job :: after).Pairwise fun earlier later =>
      later.hasBegun = true → earlier.hasBegun = true)
    (hcalled : job.hasBegun = true ∨ before.all Job.hasBegun = true)
    (hbegun : job'.hasBegun = true) :
    (before ++ job' :: after).Pairwise fun earlier later =>
      later.hasBegun = true → earlier.hasBegun = true := by
  rw [List.pairwise_append, List.pairwise_cons] at h ⊢
  obtain ⟨hbefore, ⟨-, hafter⟩, hacross⟩ := h
  refine ⟨hbefore, ⟨fun _ _ _ => hbegun, hafter⟩, ?_⟩
  intro earlier hearlier later hlater
  rcases List.mem_cons.1 hlater with rfl | hlater
  · intro _
    rcases hcalled with hjob | hall
    · exact hacross earlier hearlier job List.mem_cons_self hjob
    · exact List.all_eq_true.1 hall earlier hearlier
  · exact hacross earlier hearlier later (List.mem_cons_of_mem _ hlater)

theorem State.Valid.turn {s s' : State} (hs : s.Valid w options inputs) {index : Nat}
    (h : w.step options s (.turn index) = some s') :
    s'.Valid w options inputs ∧ s'.cost w options < s.cost w options := by
  obtain ⟨before, job, after, stage, hjobs, hadvance, hjobs'⟩ := w.step_turn options h
  have hjob : job ∈ s.jobs := by
    rw [hjobs]
    simp
  obtain ⟨hmemory, hsound, hcost, hactive, hcalled, hbegun⟩ :=
    w.advance_sound options hadvance hs.memory (hs.jobs job hjob)
  refine ⟨⟨?_, ?_, ?_, hmemory, ?_⟩, ?_⟩
  · rw [← hs.inputs, hjobs, hjobs']
    simp
  · intro other hother
    rw [hjobs', List.mem_append, List.mem_cons] at hother
    rcases hother with hbefore | rfl | hafter
    · exact hs.jobs other (by simp [hjobs, hbefore])
    · exact hsound
    · exact hs.jobs other (by simp [hjobs, hafter])
  · rw [hjobs']
    exact order_of_begun (hjobs ▸ hs.order) hcalled hbegun
  · have hpermits := hs.permits
    simp only [State.active, hjobs, hjobs', List.countP_append, List.countP_cons]
      at hpermits hactive ⊢
    by_cases hnow : Job.isActive ⟨job.input, stage⟩ = true
    · rcases hactive hnow with hbefore | hfree
      · simp only [hnow, hbefore, if_true] at hpermits ⊢
        exact hpermits
      · simp only [hnow, if_true]
        omega
    · simp only [hnow, Bool.false_eq_true, if_false]
      omega
  · simp only [State.cost, hjobs, hjobs', sumOf_append, sumOf]
    omega

/-- One event, and whether it uses up a turn. -/
theorem State.Valid.step {s s' : State} (hs : s.Valid w options inputs) {event : Event}
    (h : w.step options s event = some s') :
    s'.Valid w options inputs ∧
      s'.cost w options + (if event.isTurn then 1 else 0) ≤ s.cost w options := by
  cases event with
  | turn index =>
    obtain ⟨hvalid, hcost⟩ := hs.turn h
    exact ⟨hvalid, hcost⟩
  | probe text =>
    cases h
    exact ⟨⟨hs.inputs, hs.jobs, hs.order, hs.memory.probe text, hs.permits⟩, Nat.le_refl _⟩
  | learn text =>
    cases h
    exact ⟨⟨hs.inputs, hs.jobs, hs.order, hs.memory.learn text, hs.permits⟩, Nat.le_refl _⟩
  | clear =>
    cases h
    exact ⟨⟨hs.inputs, hs.jobs, hs.order, Cache.sound_empty, hs.permits⟩, Nat.le_refl _⟩

theorem State.Valid.follow {s s' : State} (hs : s.Valid w options inputs) {schedule : List Event}
    (h : w.follow options s schedule = some s') :
    s'.Valid w options inputs ∧
      s'.cost w options + schedule.countP Event.isTurn ≤ s.cost w options := by
  induction schedule generalizing s with
  | nil =>
    cases h
    exact ⟨hs, Nat.le_refl _⟩
  | cons event rest ih =>
    obtain ⟨middle, hstep, hrest⟩ := Option.bind_eq_some_iff.1 h
    obtain ⟨hmiddle, hfirst⟩ := hs.step hstep
    obtain ⟨hlast, hcost⟩ := ih hmiddle hrest
    refine ⟨hlast, ?_⟩
    rw [List.countP_cons]
    omega

/-! ### The end of a batch -/

end Steps

/-! ### The results of a batch -/

section Run

variable (analyze : File → Except String Analysis) (limit : Int) (inputs : List Input)

variable {analyze limit inputs}

end Run

end TagAudit.Batch
