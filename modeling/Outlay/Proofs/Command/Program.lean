import Outlay.Command.Program

/-!
# Programs on a disk

Each step of a program has an equation for what it yields, prints and leaves of the disk. From them, by the
rule for one program behind another, follow programs that leave the output or the disk alone and programs that
have printed nothing when they fail.
-/

namespace Outlay.Command.Program

open Storage

variable {α β : Type} {p : Program (StateM Disk) α} {f : α → Program (StateM Disk) β}
variable {s s' : String} {d d' : Disk}

/-- What a program yields, all that is printed behind what was printed before, and the disk after it. -/
def on (p : Program (StateM Disk) α) (s : String) (d : Disk) :
    (Except (List Cause) α × String) × Disk :=
  (p.run.run s).run d

@[simp] theorem on_pure (a : α) (s : String) (d : Disk) :
    (pure a : Program (StateM Disk) α).on s d = ((.ok a, s), d) := rfl

@[simp] theorem on_throw (causes : List Cause) (s : String) (d : Disk) :
    (throw causes : Program (StateM Disk) α).on s d = ((.error causes, s), d) := rfl

@[simp] theorem on_print (text s : String) (d : Disk) :
    (print text : Program (StateM Disk) Unit).on s d = ((.ok (), s ++ text), d) := rfl

@[simp] theorem on_look (path s : String) (d : Disk) :
    (Access.look path : Program (StateM Disk) Entry).on s d = ((.ok (d.look path), s), d) := rfl

@[simp] theorem on_makeDirectory (path s : String) (d : Disk) :
    (Access.makeDirectory path : Program (StateM Disk) Bool).on s d =
      ((.ok (d.makeDirectory path).2, s), (d.makeDirectory path).1) := rfl

@[simp] theorem on_write (path content s : String) (d : Disk) :
    (Access.write path content : Program (StateM Disk) Bool).on s d =
      ((.ok (d.write path (.ofText content)).2, s), (d.write path (.ofText content)).1) := rfl

@[simp] theorem on_ofExcept (x : Except (List Cause) α) (s : String) (d : Disk) :
    (MonadExcept.ofExcept x : Program (StateM Disk) α).on s d = ((x, s), d) := by
  cases x <;> rfl

/-- A failure ends the run where it stands. -/
theorem on_bind (p : Program (StateM Disk) α) (f : α → Program (StateM Disk) β) (s : String) (d : Disk) :
    (p >>= f).on s d =
      match p.on s d with
      | ((.ok a, s'), d') => (f a).on s' d'
      | ((.error causes, s'), d') => ((.error causes, s'), d') := by
  have step : (p >>= f).on s d =
      ((ExceptT.bindCont f (p.on s d).1.1).run (p.on s d).1.2).run (p.on s d).2 := rfl
  rw [step]
  obtain ⟨⟨_ | a, s'⟩, d'⟩ := p.on s d <;> rfl

theorem on_bind_of_ok {a : α} (first : p.on s d = ((.ok a, s'), d')) :
    (p >>= f).on s d = (f a).on s' d' := by
  rw [on_bind, first]

/-- A program as a run that starts with nothing printed. -/
def outcomeOn (p : Program (StateM Disk) Unit) (d : Disk) : Outcome × Disk :=
  (p.outcome : StateM Disk Outcome) d

theorem outcomeOn_eq (p : Program (StateM Disk) Unit) (d : Disk) :
    p.outcomeOn d = (⟨(p.on "" d).1.2, .ofResult (p.on "" d).1.1⟩, (p.on "" d).2) := rfl

theorem outcomeOn_of_ok {p : Program (StateM Disk) Unit} (went : p.on "" d = ((.ok (), s), d')) :
    p.outcomeOn d = (.printed s, d') := by
  rw [outcomeOn_eq, went]
  rfl

theorem outcomeOn_of_error {p : Program (StateM Disk) Unit} {causes : List Cause}
    (failed : p.on "" d = ((.error causes, s), d')) : p.outcomeOn d = (⟨s, .failed causes⟩, d') := by
  rw [outcomeOn_eq, failed]
  rfl

/-! What programs keep of the output and the disk. -/

/-- However the program ends, it leaves what is seen of the output and the disk. -/
def Keeps {γ : Type} (view : String × Disk → γ) (p : Program (StateM Disk) α) : Prop :=
  ∀ s d, view ((p.on s d).1.2, (p.on s d).2) = view (s, d)

abbrev NeverPrints (p : Program (StateM Disk) α) : Prop := p.Keeps Prod.fst

abbrev KeepsDisk (p : Program (StateM Disk) α) : Prop := p.Keeps Prod.snd

/-- The program neither prints nor touches the disk. -/
abbrev OnlyReads (p : Program (StateM Disk) α) : Prop := p.Keeps id

theorem Keeps.bind {γ : Type} {view : String × Disk → γ} (first : p.Keeps view)
    (rest : ∀ a, (f a).Keeps view) : (p >>= f).Keeps view := by
  intro s d
  have kept := first s d
  rw [on_bind]
  generalize p.on s d = result at kept ⊢
  obtain ⟨⟨_ | a, s'⟩, d'⟩ := result
  · exact kept
  · exact (rest a s' d').trans kept

theorem OnlyReads.neverPrints (reads : p.OnlyReads) : p.NeverPrints :=
  fun s d => congrArg Prod.fst (reads s d)

theorem OnlyReads.keepsDisk (reads : p.OnlyReads) : p.KeepsDisk :=
  fun s d => congrArg Prod.snd (reads s d)

theorem onlyReads_pure (a : α) : (pure a : Program (StateM Disk) α).OnlyReads := fun _ _ => rfl

theorem onlyReads_throw (causes : List Cause) : (throw causes : Program (StateM Disk) α).OnlyReads :=
  fun _ _ => rfl

theorem onlyReads_ofExcept (x : Except (List Cause) α) :
    (MonadExcept.ofExcept x : Program (StateM Disk) α).OnlyReads := by
  cases x with
  | error causes => exact onlyReads_throw causes
  | ok a => exact onlyReads_pure a

theorem onlyReads_look (path : String) :
    (Access.look path : Program (StateM Disk) Entry).OnlyReads := fun _ _ => rfl

theorem neverPrints_makeDirectory (path : String) :
    (Access.makeDirectory path : Program (StateM Disk) Bool).NeverPrints := fun _ _ => rfl

theorem neverPrints_write (path content : String) :
    (Access.write path content : Program (StateM Disk) Bool).NeverPrints := fun _ _ => rfl

theorem keepsDisk_print (text : String) : (print text : Program (StateM Disk) Unit).KeepsDisk :=
  fun _ _ => rfl

/-! Programs that print nothing before they fail. -/

/-- If the program fails, it has printed nothing. -/
def FailsUnprinted (p : Program (StateM Disk) α) : Prop :=
  ∀ s d causes, (p.on s d).1.1 = .error causes → (p.on s d).1.2 = s

/-- Something that the program may yield. -/
def Yields (p : Program (StateM Disk) α) (a : α) : Prop := ∃ s d, (p.on s d).1.1 = .ok a

theorem NeverPrints.bind_failsUnprinted (first : p.NeverPrints)
    (rest : ∀ a, p.Yields a → (f a).FailsUnprinted) : (p >>= f).FailsUnprinted := by
  intro s d causes
  have kept := first s d
  rw [on_bind]
  cases found : p.on s d with
  | mk printed d' =>
    rw [found] at kept
    obtain ⟨_ | a, s'⟩ := printed
    · exact fun _ => kept
    · have yielded : p.Yields a := ⟨s, d, by rw [found]⟩
      exact fun failed => (rest a yielded s' d' causes failed).trans kept

theorem failsUnprinted_print (text : String) :
    (print text : Program (StateM Disk) Unit).FailsUnprinted := by
  intro s d causes failed
  cases failed

/-- A run that fails has printed nothing. -/
theorem FailsUnprinted.output_eq {p : Program (StateM Disk) Unit} (unprinted : p.FailsUnprinted)
    (failed : (p.outcomeOn d).1.exitCode = 1) : (p.outcomeOn d).1.output = "" := by
  rw [outcomeOn_eq] at failed ⊢
  cases result : (p.on "" d).1.1 with
  | ok =>
    rw [result] at failed
    cases failed
  | error causes => exact unprinted "" d causes result

end Outlay.Command.Program
