import Receipt.FileStore
import Receipt.Proofs.Result

/-!
# What a write changes in a store

A write changes what stands at one place and nothing else.  Writes that follow each other through
one handle are one write.  A file has no steps behind it, just as a place where nothing stands, so
that a path which does not lead to a file leads to the same place with or without it; only a path
through a place where a file is made fails for another reason than before.
-/

set_option autoImplicit false

namespace Receipt

namespace Content

/-- In front of a cut stand as many bytes as its offset says. -/
theorem size_before_seek (content : Content) (offset : Nat) :
    (content.seek offset).before.size = offset := by
  rw [← Log.length_toList, before_seek, List.length_append, List.length_take, List.length_replicate]
  omega

/-- A content that is cut where it is cut already stays as it is. -/
theorem seek_size_before (content : Content) : content.seek content.before.size = content := by
  have whole : content.before.dropLast 0 = content.before := by
    apply Log.toList_inj
    rw [Log.toList_dropLast, Nat.sub_zero, ← Log.length_toList, List.take_length]
  rw [seek, if_pos (Nat.le_refl _)]
  simp only [Nat.sub_self, whole]
  rfl

/-- Writes one behind the other are one write. -/
theorem overwrite_append (content : Content) (offset : Nat) (front back : List UInt8) :
    (content.overwrite offset front).overwrite (offset + front.length) back =
      content.overwrite offset (front ++ back) := by
  cases front with
  | nil => rfl
  | cons first rest =>
      cases back with
      | nil => simp [overwrite]
      | cons next others =>
          -- The second write goes on where the first one cut the content.
          have cut : (content.overwrite offset (first :: rest)).before.size =
              offset + (first :: rest).length := by
            rw [← Log.length_toList]
            simp [overwrite, size_before_seek]
          rw [← cut, overwrite, seek_size_before, List.isEmpty_cons]
          simp only [overwrite, List.isEmpty_cons, List.cons_append, List.drop_drop,
            Bool.false_eq_true, if_false]
          have joined (log : Log UInt8) : (log.append (first :: rest)).append (next :: others) =
              log.append (first :: (rest ++ next :: others)) :=
            Log.toList_inj (by simp)
          rw [joined, ← List.length_append, List.cons_append]

end Content

namespace FileStore

variable {store : FileStore} {place other : Place} {entry : FileEntry}

/-- What was put at a place is found there. -/
theorem entry?_set_self (nested : place ≠ []) :
    FileStore.entry? (store.set place entry) place = some entry := by
  unfold entry?
  rw [if_neg nested, set, List.lookup_cons_self]

/-- What is found at other places stays as it was. -/
theorem entry?_set_of_ne (elsewhere : other ≠ place) :
    FileStore.entry? (store.set place entry) other = store.entry? other := by
  have kept (entries : List (Place × FileEntry)) :
      (entries.filter (fun item => item.1 != place)).lookup other = entries.lookup other := by
    induction entries with
    | nil => rfl
    | cons item rest ih =>
        obtain ⟨at_place, entry⟩ := item
        by_cases here : at_place = place
        · have skipped : (other == at_place) = false := by
            rw [here]
            exact beq_eq_false_iff_ne.mpr elsewhere
          rw [List.filter_cons_of_neg (by simp [here]), ih, List.lookup_cons, skipped]
        · rw [List.filter_cons_of_pos (by simp [here]), List.lookup_cons, List.lookup_cons, ih]
  have behind : (other == place) = false := beq_eq_false_iff_ne.mpr elsewhere
  simp only [set, entry?, List.lookup_cons, behind, kept]

/-- What was put at a place first is lost. -/
theorem set_set (store : FileStore) (place : Place) (first second : FileEntry) :
    (store.set place first).set place second = store.set place second := by
  simp [set]

/-- A file or device has a place of its own below the root. -/
theorem ne_nil_of_entry? (found : store.entry? place = some entry)
    (other : entry ≠ .directory) : place ≠ [] := by
  rintro rfl
  cases found
  exact other rfl

/-- Writes that follow each other through one handle are one write. -/
theorem writeAt_append (store : FileStore) (handle : FileHandle) (front back : List UInt8) :
    store.writeAt handle (front ++ back) = (do
      let written ← store.writeAt handle front
      written.1.writeAt written.2 back) := by
  cases found : store.entry? handle.place with
  | none => simp [writeAt, found, bind, Except.bind, Nat.add_assoc]
  | some entry =>
      cases entry with
      | directory | detached => simp [writeAt, found, bind, Except.bind, Nat.add_assoc]
      | file content =>
          have nested := ne_nil_of_entry? found (by simp)
          simp [writeAt, found, bind, Except.bind, entry?_set_self nested, set_set,
            Content.overwrite_append, Nat.add_assoc]
      | device hasRoom written =>
          have nested := ne_nil_of_entry? found (by simp)
          have joined : (written.append front).append back = written.append (front ++ back) :=
            Log.toList_inj (by simp)
          have room : (hasRoom || (front ++ back).isEmpty) =
              ((hasRoom || front.isEmpty) && (hasRoom || back.isEmpty)) := by
            cases hasRoom <;> cases front <;> rfl
          cases taken : hasRoom || front.isEmpty with
          | true =>
              simp only [writeAt, found, room, taken, bind, Except.bind, Bool.true_and, if_true,
                entry?_set_self nested, set_set, joined, List.length_append, Nat.add_assoc]
          | false => simp [writeAt, found, room, taken, bind, Except.bind]

/-- A write to a file goes where its handle stands, and moves the handle behind it. -/
theorem writeAt_of_file {handle : FileHandle} {content : Content} (data : List UInt8)
    (found : store.entry? handle.place = some (.file content)) :
    store.writeAt handle data =
      .ok (store.set handle.place (.file (content.overwrite handle.offset data)),
        ⟨handle.place, handle.offset + data.length⟩) := by
  simp [writeAt, found]

/-- Where a path leads; nothing need stand there. -/
def goal (store : FileStore) (path : String) : Except FileFault Place :=
  Path.ofText path >>= store.locate

/-- Whether a path leads to a place or, with the steps behind it left out, through it. -/
def Passes (store : FileStore) (path : String) (place : Place) : Prop :=
  ∃ way front, Path.ofText path = .ok way ∧ front <+: way.steps ∧
    store.locate { way with steps := front } = .ok place

/-- Whether a path keeps away from a file: it leads elsewhere, and unless the file is there already,
it does not lead through its place. -/
def KeepsFrom (store : FileStore) (path : String) (place : Place) : Prop :=
  store.goal path ≠ .ok place ∧ (store.entry? place = none → ¬ store.Passes path place)

/-- Whether a path outside the directory of devices can be opened as a file at a place, which is
empty then. -/
def OpensFile (store : FileStore) (path : String) (place : Place) : Prop :=
  ∃ way opened, Path.ofText path = .ok way ∧ way.isDevice = false ∧
    store.create way = .ok (opened, ⟨place, 0⟩) ∧
    opened.entry? place = some (.file .empty)

/-- A look at a place finds the entry that the store has there. -/
theorem eq_entry?_of_lookUp {found : Option FileEntry} (looked : store.lookUp place = .ok found) :
    found = store.entry? place := by
  unfold lookUp at looked
  split at looked
  · cases looked
  · cases looked
    rfl

/-- A path that opens a file leads to its place, which held a file or nothing, and opening puts an
empty file there. -/
theorem create_eq_ok {way : Path} {opened : FileStore}
    (created : store.create way = .ok (opened, ⟨place, 0⟩))
    (regular : opened.entry? place = some (.file .empty)) :
    store.locate way = .ok place ∧ way.toDirectory = false ∧
      store.lookUp place = .ok (store.entry? place) ∧
      opened = store.set place (.file .empty) ∧
      (store.entry? place = none ∨ ∃ content, store.entry? place = some (.file content)) := by
  unfold create at created
  cases located : store.locate way with
  | error fault =>
      rw [located] at created
      cases created
  | ok reached =>
      simp only [located] at created
      cases directory : way.toDirectory with
      | true =>
          rw [directory] at created
          cases created
      | false =>
          simp only [directory, Bool.false_eq_true, if_false] at created
          cases looked : store.lookUp reached with
          | error fault =>
              rw [looked] at created
              cases created
          | ok found =>
              have stands := eq_entry?_of_lookUp looked
              -- A file is made anew and cut to nothing under the same condition.
              have made (allowed : (if Places.allowsFiles reached then
                    (.ok (store.set reached (.file .empty), ⟨reached, 0⟩) :
                      Except FileFault (FileStore × FileHandle))
                  else .error .notFound) = .ok (opened, ⟨place, 0⟩)) :
                  reached = place ∧ opened = store.set reached (.file .empty) := by
                split at allowed
                · cases allowed
                  exact ⟨rfl, rfl⟩
                · cases allowed
              simp only [looked] at created
              cases found with
              | none =>
                  obtain ⟨rfl, rfl⟩ := made created
                  exact ⟨rfl, rfl, by rw [looked, stands], rfl, Or.inl stands.symm⟩
              | some entry =>
                  cases entry with
                  | directory | detached => cases created
                  | device hasRoom written =>
                      cases created
                      rw [regular] at stands
                      cases stands
                  | file content =>
                      obtain ⟨rfl, rfl⟩ := made created
                      exact ⟨rfl, rfl, by rw [looked, stands], rfl, Or.inr ⟨content, stands.symm⟩⟩

/-- A look at other places finds what it found before. -/
theorem lookUp_set_of_ne (elsewhere : other ≠ place) :
    (store.set place entry).lookUp other = store.lookUp other := by
  simp only [lookUp, entry?_set_of_ne elsewhere]

/-- Where a name is not too long, what was put there is found. -/
theorem lookUp_set_self {found : Option FileEntry} (nested : place ≠ [])
    (looked : store.lookUp place = .ok found) :
    (store.set place entry).lookUp place = .ok (some entry) := by
  unfold lookUp at looked ⊢
  split at looked
  · cases looked
  · next short => rw [if_neg short, entry?_set_self nested]

/-- A step starts at a directory. -/
theorem entry?_of_step {next : Place} {taken : PathStep}
    (walked : store.step place taken = .ok next) : store.entry? place = some .directory := by
  unfold step at walked
  split at walked
  · cases walked
  · next looked => exact (eq_entry?_of_lookUp looked).symm
  · cases walked
  · cases walked

/-- Paths lead through other places as they did before. -/
theorem step_set_of_ne (elsewhere : other ≠ place) :
    (store.set place entry).step other = store.step other := by
  funext taken
  simp only [step, lookUp_set_of_ne elsewhere]

/-- There are no steps from a file, whatever it holds. -/
theorem step_set_of_file {content : Content} (found : store.entry? place = some (.file content))
    (changed : Content) : (store.set place (.file changed)).step = store.step := by
  funext start taken
  by_cases here : start = place
  · have nested := ne_nil_of_entry? found (by simp)
    rw [here]
    simp only [step, lookUp, entry?_set_self nested, found]
    cases place.getLast?.any (fun name => 255 < name.utf8ByteSize) <;> rfl
  · rw [step_set_of_ne here]

/-- Steps that lead on lead where they led, when something is put where there is no directory. -/
theorem foldlM_step_set {steps : List PathStep} {start reached : Place}
    (closed : store.entry? place ≠ some .directory)
    (walked : steps.foldlM store.step start = .ok reached) :
    steps.foldlM (store.set place entry).step start = .ok reached := by
  induction steps generalizing start with
  | nil => exact walked
  | cons taken rest ih =>
      rw [List.foldlM_cons] at walked ⊢
      obtain ⟨next, first, later⟩ := Result.bind_eq_ok.mp walked
      have elsewhere : start ≠ place := by
        rintro rfl
        exact closed (entry?_of_step first)
      rw [step_set_of_ne elsewhere]
      exact Result.bind_eq_ok.mpr ⟨next, first, ih later⟩

/-- Steps that never come to a place do not depend on what stands there. -/
theorem foldlM_step_set_of_avoids {steps : List PathStep} {start : Place}
    (avoids : ∀ front, front <+: steps → front.foldlM store.step start ≠ .ok place) :
    steps.foldlM (store.set place entry).step start = steps.foldlM store.step start := by
  induction steps generalizing start with
  | nil => rfl
  | cons taken rest ih =>
      have elsewhere : start ≠ place := by
        rintro rfl
        exact avoids [] (List.nil_prefix) rfl
      rw [List.foldlM_cons, List.foldlM_cons, step_set_of_ne elsewhere]
      cases first : store.step start taken with
      | error fault => rfl
      | ok next =>
          apply ih
          intro front begins later
          apply avoids (taken :: front) (List.cons_prefix_cons.mpr ⟨rfl, begins⟩)
          rw [List.foldlM_cons, first]
          exact later

/-- A path that keeps away from a file gives the same text whatever the file holds. -/
theorem readText_set {path : String} {content : Content} (keeps : store.KeepsFrom path place)
    (regular : store.entry? place = none ∨ ∃ old, store.entry? place = some (.file old)) :
    (store.set place (.file content)).readText path = store.readText path := by
  obtain ⟨elsewhere, around⟩ := keeps
  have same_read : (store.set place (.file content)).read path = store.read path := by
    unfold read
    cases named : Path.ofText path with
    | error fault => rfl
    | ok way =>
        have located : (store.set place (.file content)).locate way = store.locate way := by
          unfold locate
          -- A file that is new must not be on the way; one that was there ended the way before.
          rcases regular with none | ⟨old, found⟩
          · apply foldlM_step_set_of_avoids
            intro front begins reached
            exact around none ⟨way, front, named, begins, reached⟩
          · rw [step_set_of_file found]
            rfl
        simp only [located]
        cases reached : store.locate way with
        | error fault => rfl
        | ok other =>
            have apart : other ≠ place := by
              rintro rfl
              apply elsewhere
              rw [goal, named]
              exact reached
            simp only [lookUp_set_of_ne apart]
  simp only [readText, same_read]

/-- A file that a path opens holds what was written to it. -/
theorem read_set_of_opensFile {path : String} (opens : store.OpensFile path place)
    (content : Content) : (store.set place (.file content)).read path = .ok content.toList := by
  obtain ⟨way, opened, named, -, created, regular⟩ := opens
  obtain ⟨located, file, looked, -, stood⟩ := create_eq_ok created regular
  have closed : store.entry? place ≠ some .directory := by
    rcases stood with none | ⟨old, found⟩
    · simp [none]
    · simp [found]
  have nested : place ≠ [] := by
    rintro rfl
    exact closed rfl
  have still : (store.set place (.file content)).locate way = .ok place :=
    foldlM_step_set closed located
  simp only [read, named, still, lookUp_set_self nested looked, file, FileEntry.read,
    Bool.false_eq_true, if_false]

end FileStore

end Receipt
