import Receipt.Proofs.Session.PrintJob
import Receipt.Proofs.Session.Printout

/-!
# Why a job fails

A job fails for one of three reasons.  Its document cannot be read, and then nothing was done; or the
sink itself fails to send; or a picture is too wide for the strips it should be printed as.  A text
of a document never fails, because each of its runs was encoded when the document was read, with the
charset it is printed in.  A single text or picture that is refused leaves the session as it was.
-/

set_option autoImplicit false

namespace Receipt

namespace Sink

variable {σ : Type} [Sink σ]

/-- Whether a failure is one of the sink's own: after some moves, all of which it makes, a send fails
and leaves the sink as given. -/
def FailsWith (sink : σ) (failure : Failure) (left : σ) : Prop :=
  ∃ (made : List Move) (extra : Nat) (before : σ),
    perform made sink = (.ok (), before) ∧ send before extra = (.error failure, left)

/-- Moves fail only where a send does. -/
theorem failsWith_of_perform {moves : List Move} {sink left : σ} {failure : Failure}
    (failed : perform moves sink = (.error failure, left)) : FailsWith sink failure left := by
  induction moves generalizing sink with
  | nil => cases failed
  | cons move rest ih =>
      cases move with
      | write command =>
          obtain ⟨made, extra, before, performed, refused⟩ := ih failed
          exact ⟨.write command :: made, extra, before, performed, refused⟩
      | send extra =>
          rw [perform] at failed
          cases sent : send sink extra with
          | mk result reached =>
              rw [sent] at failed
              cases result with
              | error early =>
                  cases failed
                  exact ⟨[], extra, sink, rfl, sent⟩
              | ok =>
                  obtain ⟨made, later, before, performed, refused⟩ := ih failed
                  refine ⟨.send extra :: made, later, before, ?_, refused⟩
                  rw [perform, sent]
                  exact performed

/-- A failure behind moves that were made is one of all moves. -/
theorem FailsWith.behind {moves : List Move} {sink reached left : σ} {failure : Failure}
    (performed : perform moves sink = (.ok (), reached)) (h : FailsWith reached failure left) :
    FailsWith sink failure left := by
  obtain ⟨made, extra, before, further, refused⟩ := h
  refine ⟨moves ++ made, extra, before, ?_, refused⟩
  rw [perform_append, performed]
  exact further

end Sink

/-- A connected recorder does not fail. -/
theorem Recorder.not_failsWith {recorder left : Recorder} {failure : Failure}
    (connected : recorder.connected = true) : ¬ Sink.FailsWith recorder failure left := by
  rintro ⟨made, extra, before, performed, refused⟩
  obtain ⟨next, same, stays, -⟩ := perform_of_connected made connected
  rw [performed] at same
  cases same
  have sent : Sink.send before extra = (.ok (), before.flush extra) := if_pos stays
  rw [sent] at refused
  cases refused

namespace Output

/-- An output is refused only for characters that the charset lacks or for the width of a picture. -/
theorem plan_eq_error {profile : Profile} {strips : Bool} {style : Option TextStyle}
    {output : Output} {failure : Failure}
    (refused : output.plan profile strips style = .error failure) :
    (∃ content wanted, output = .text content wanted ∧
        profile.charset.encode content = .error failure) ∨
      ∃ picture, output = .image picture ∧ strips = true ∧ 65535 < picture.widthPx ∧
        failure = .image (.tooWideForStrips picture.widthPx) := by
  cases output with
  | text content wanted =>
      left
      rw [plan] at refused
      cases encoded : profile.charset.encode content with
      | ok bytes =>
          rw [encoded] at refused
          cases refused
      | error cause =>
          rw [encoded] at refused
          cases refused
          exact ⟨content, wanted, rfl, encoded⟩
  | image picture =>
      right
      rw [plan] at refused
      unfold Action.imageCommands Raster.toStrips at refused
      by_cases asked : strips = true
      · by_cases narrow : picture.widthPx ≤ 65535
        · rw [if_pos asked, if_pos narrow] at refused
          cases refused
        · rw [if_pos asked, if_neg narrow] at refused
          cases refused
          exact ⟨picture, rfl, asked, by omega, rfl⟩
      · rw [if_neg asked] at refused
        cases refused
  | reset | justify | barcode | qr | newLine | feed | flush | cut | openDrawer | table =>
      cases refused

variable {σ : Type} [Sink σ]

/-- An output that succeeds made some moves and kept the profile and the way of printing images. -/
theorem exists_moves_of_run_eq_ok {output : Output} {session next : Session σ}
    (ran : output.run session = .ok () next) :
    next.profile = session.profile ∧ next.strips = session.strips ∧
      ∃ moves, Sink.perform moves session.sink = (.ok (), next.sink) := by
  rcases output.run_cases session with nothing | ⟨failure, -, refused⟩ | ⟨plan, -, fulfilled⟩
  · rw [nothing] at ran
    cases ran
    exact ⟨rfl, rfl, [], rfl⟩
  · rw [refused] at ran
    cases ran
  · rw [fulfilled] at ran
    obtain ⟨reached, made, rfl⟩ := Action.fulfil_eq_ok.mp ran
    exact ⟨rfl, rfl, plan.moves, made⟩

/-- An output that fails was refused, and then it did nothing, or its sink fails. -/
theorem run_eq_error {output : Output} {session left : Session σ} {failure : Failure}
    (failed : output.run session = .error failure left) :
    (output.plan session.profile session.strips session.style = .error failure ∧
        left = session) ∨
      Sink.FailsWith session.sink failure left.sink := by
  rcases output.run_cases session with nothing | ⟨cause, planned, refused⟩ | ⟨plan, -, fulfilled⟩
  · rw [nothing] at failed
    cases failed
  · rw [refused] at failed
    cases failed
    exact Or.inl ⟨planned, rfl⟩
  · rw [fulfilled] at failed
    obtain ⟨reached, made, rfl⟩ := Action.fulfil_eq_error.mp failed
    exact Or.inr (Sink.failsWith_of_perform made)

/-- A text sends nothing, so that it fails only if it is refused. -/
theorem run_text_eq_error {content : List Char} {style : TextStyle} {session left : Session σ}
    {failure : Failure} (failed : (text content style).run session = .error failure left) :
    session.profile.charset.encode content = .error failure ∧ left = session := by
  rcases (text content style).run_cases session with
    nothing | ⟨cause, planned, refused⟩ | ⟨plan, planned, fulfilled⟩
  · rw [nothing] at failed
    cases failed
  · rw [refused] at failed
    cases failed
    rcases plan_eq_error planned with ⟨_, _, same, lacking⟩ | ⟨_, same, -⟩
    · cases same
      exact ⟨lacking, rfl⟩
    · cases same
  · rw [Output.plan] at planned
    split at planned
    · cases planned
      rw [fulfilled, Action.fulfil, Action.perform_writes] at failed
      cases failed
    · cases planned

/-- Outputs that fail contain one that is refused, or their sink fails. -/
theorem runAll_eq_error {outputs : List Output} {session left : Session σ} {failure : Failure}
    (failed : runAll outputs session = .error failure left) :
    (∃ output ∈ outputs, ∃ style,
        output.plan session.profile session.strips style = .error failure) ∨
      Sink.FailsWith session.sink failure left.sink := by
  induction outputs generalizing session with
  | nil => cases failed
  | cons output rest ih =>
      rw [runAll_cons] at failed
      cases ran : output.run session with
      | error cause reached =>
          rw [ran] at failed
          cases failed
          rcases run_eq_error ran with ⟨refused, -⟩ | own
          · exact Or.inl ⟨output, List.mem_cons_self, _, refused⟩
          · exact Or.inr own
      | ok result next =>
          rw [ran] at failed
          obtain ⟨profile, strips, moves, performed⟩ := exists_moves_of_run_eq_ok ran
          rcases ih failed with ⟨later, mem, style, refused⟩ | own
          · rw [profile, strips] at refused
            exact Or.inl ⟨later, List.mem_cons_of_mem output mem, style, refused⟩
          · exact Or.inr (own.behind performed)

end Output

namespace Markup.Element

/-- A text among the outputs of an element is that of its run. -/
theorem exists_run_of_text_mem {element : Element} {content : List Char} {style : TextStyle}
    (asked : .text content style ∈ element.outputs) :
    ∃ run, element = .text run ∧ content = run.text := by
  cases element with
  | text run =>
      cases List.mem_singleton.mp asked
      exact ⟨run, rfl, rfl⟩
  | image placed | qr payload placed => cases List.mem_singleton.mp asked
  | barcode placed => simp [outputs] at asked

/-- An image among the outputs of an element is its picture. -/
theorem picture?_of_image_mem {element : Element} {image : Raster}
    (asked : .image image ∈ element.outputs) : element.picture? = some image := by
  cases element with
  | text run => cases List.mem_singleton.mp asked
  | image placed | qr payload placed =>
      cases List.mem_singleton.mp asked
      rfl
  | barcode placed => simp [outputs] at asked

end Markup.Element

/-- Only the outputs of elements are ever refused. -/
theorem PrintJob.exists_element_of_refused {job : PrintJob} {profile : Profile}
    {lines : List Markup.Line} {output : Output} (mem : output ∈ job.outputs profile lines)
    {strips : Bool} {style : Option TextStyle} {failure : Failure}
    (refused : output.plan profile strips style = .error failure) :
    ∃ line ∈ lines, ∃ element ∈ line.elements, output ∈ element.outputs := by
  -- What is done around the elements is neither text nor a picture.
  have named := Output.plan_eq_error refused
  rw [outputs, Markup.Document.outputs, List.cons_append, List.append_assoc] at mem
  simp only [List.mem_cons, List.mem_append, List.mem_flatMap] at mem
  rcases mem with rfl | ⟨line, held, asked⟩ | (fed | none) | ended
  · simp at named
  · rcases List.mem_append.mp asked with shown | last
    · obtain ⟨element, part, own⟩ := List.mem_flatMap.mp shown
      exact ⟨line, held, element, part, own⟩
    · split at last
      · rw [List.mem_singleton.mp last] at named
        simp at named
      · cases last
  · split at fed
    · subst fed
      simp at named
    · subst fed
      simp at named
  · cases none
  · cases job <;> simp [ending] at ended
    · subst ended
      simp at named
    · rcases ended with rfl | rfl <;> simp at named

namespace Session

variable {σ : Type} [Sink σ]

/-- Failures that a document causes never leave a job half printed.  A document that cannot be read
is the failure of its job, in whatever way it is printed, and changes nothing.  If it can be read,
the job fails only with a failure of the sink's own, or with that of a picture of the document which
is wider than 65535 dots and should be printed as strips.  A single text fails only because of its
characters, a single picture because of its width or because the sink fails; for its characters or
its width it changes nothing. -/
theorem failures_of_jobs (session : Session σ) :
    (∀ (job : PrintJob) (failure : Failure),
      Markup.Document.parse session.profile Qr.encode job.text = .error failure →
        job.run session = .error failure session) ∧
    (∀ (job : PrintJob) (lines : List Markup.Line) (failure : Failure) (left : Session σ),
      Markup.Document.parse session.profile Qr.encode job.text = .ok lines →
      job.run session = .error failure left →
        Sink.FailsWith session.sink failure left.sink ∨
          session.strips = true ∧
            ∃ line ∈ lines, ∃ element ∈ line.elements, ∃ image : Raster,
              element.picture? = some image ∧ 65535 < image.widthPx ∧
              failure = .image (.tooWideForStrips image.widthPx)) ∧
    (∀ (content : List Char) (style : TextStyle) (failure : Failure) (left : Session σ),
      Action.printText content style session = .error failure left →
        (∃ cause, failure = .encoding cause) ∧ left = session) ∧
    ∀ (image : Raster) (failure : Failure) (left : Session σ),
      Action.printImage image session = .error failure left →
        Sink.FailsWith session.sink failure left.sink ∨
          session.strips = true ∧ 65535 < image.widthPx ∧
            failure = .image (.tooWideForStrips image.widthPx) ∧ left = session := by
  refine ⟨fun job failure broken => job.run_of_parse_error broken, ?_, ?_, ?_⟩
  · intro job lines failure left parsed failed
    rw [job.run_of_parse_ok parsed] at failed
    rcases Output.runAll_eq_error failed with ⟨output, mem, style, refused⟩ | own
    · right
      obtain ⟨line, held, element, part, asked⟩ := PrintJob.exists_element_of_refused mem refused
      rcases Output.plan_eq_error refused with ⟨content, wanted, rfl, lacking⟩ | ⟨image, rfl, wide⟩
      · -- The run was encoded when the line was read, so it cannot be refused now.
        obtain ⟨run, rfl, rfl⟩ := Markup.Element.exists_run_of_text_mem asked
        have encodes := (Markup.Document.shape_of_parse parsed line held).encodes part
        rw [encodes] at lacking
        cases lacking
      · have shown := Markup.Element.picture?_of_image_mem asked
        exact ⟨wide.1, line, held, element, part, image, shown, wide.2⟩
    · exact Or.inl own
  · intro content style failure left failed
    obtain ⟨lacking, same⟩ := Output.run_text_eq_error failed
    exact ⟨session.profile.charset.exists_of_encode_eq_error lacking, same⟩
  · intro image failure left failed
    have asked : (Output.image image).run session = .error failure left := failed
    rcases Output.run_eq_error asked with ⟨refused, same⟩ | own
    · right
      rcases Output.plan_eq_error refused with ⟨_, _, other, -⟩ | ⟨_, own, asked, wide, cause⟩
      · cases other
      · cases own
        exact ⟨asked, wide, cause, same⟩
    · exact Or.inl own

/-- A session in bold that prints strips. -/
def boldStrips {τ : Type} (sink : τ) : Session τ :=
  ⟨.mm58, sink, some { TextStyle.plain with weight := .bold }, true⟩

/-- A recorder that holds a byte. -/
def heldByte : Recorder :=
  Recorder.fresh.append [0x41]

/-- The same recorder behind a sink that refuses every send. -/
def paperJam : Failing Recorder :=
  ⟨heldByte, some 0, .connection (.reported "paper jam")⟩

/-- The line of one letter on paper of 32 characters. -/
def letterLine : Markup.Line :=
  ⟨[⟨.left, [.text ⟨['a'], .plain, 1⟩, .text ⟨List.replicate 31 ' ', .plain, 31⟩]⟩], 32, ⟨0, 0⟩⟩

/-- Four rows of 65536 white dots. -/
def wideRows : Raster :=
  ⟨8192, 4, Array.replicate 32768 0, by decide, by decide, by simp⟩

/-- A bar code of an unknown type in the second line fails before the first is printed, the job of one
letter fails as its sink does, and a text outside the code page and a picture too wide for strips
change nothing. -/
theorem failures_of_jobs_boldStrips :
    let broken := "[C]ok\n<barcode type='nope'>1</barcode>".toList
    let letter := PrintJob.byDots ['a'] 0
    (PrintJob.andCut broken (Number.Single.ofNat 20)).run (boldStrips paperJam) =
        .error (.markup (.unknownSymbology "nope".toList)) (boldStrips paperJam) ∧
      (∃ left, letter.run (boldStrips paperJam) = .error paperJam.failure left ∧
        Sink.FailsWith paperJam paperJam.failure left.sink) ∧
      (∃ cause left, Action.printText ['漢'] .plain (boldStrips heldByte) =
        .error (.encoding cause) left ∧ left = boldStrips heldByte) ∧
      ∃ failure left, Action.printImage wideRows (boldStrips heldByte) = .error failure left ∧
        failure = .image (.tooWideForStrips 65536) ∧ left = boldStrips heldByte := by
  obtain ⟨documents, jobs, -, -⟩ := failures_of_jobs (boldStrips paperJam)
  obtain ⟨-, -, texts, images⟩ := failures_of_jobs (boldStrips heldByte)
  have connected : (boldStrips heldByte).isConnected = true := rfl
  refine ⟨documents _ _ (by decide +kernel), ?_, ?_, ?_⟩
  · have parsed : Markup.Document.parse (boldStrips paperJam).profile Qr.encode ['a'] =
        .ok [letterLine] := by
      decide +kernel
    have ran := (PrintJob.byDots ['a'] 0).run_of_parse_ok parsed
    have failed : ∃ left, (PrintJob.byDots ['a'] 0).run (boldStrips paperJam) =
        .error paperJam.failure left := by
      rw [ran]
      exact ⟨_, rfl⟩
    obtain ⟨left, failed⟩ := failed
    rcases jobs (.byDots ['a'] 0) _ _ _ parsed failed with own | ⟨-, _, -, _, -, _, -, -, cause⟩
    · exact ⟨left, failed, own⟩
    · cases cause
  · have lacking : (boldStrips heldByte).profile.charset.encode ['漢'] =
        .error (.encoding (.unrepresentable ['漢'] "windows-1252" none)) := by
      decide +kernel
    have ran := (Output.text ['漢'] .plain).run_of_connected connected
    rw [Output.plan, lacking] at ran
    exact ⟨_, _, ran, (texts _ _ _ _ ran).2⟩
  · have refused : Action.imageCommands (boldStrips heldByte).strips wideRows =
        .error (.image (.tooWideForStrips 65536)) := by
      decide +kernel
    have ran := (Output.image wideRows).run_of_connected connected
    rw [Output.plan, refused] at ran
    rcases images _ _ _ ran with own | ⟨-, -, cause, same⟩
    · exact absurd own (Recorder.not_failsWith rfl)
    · exact ⟨_, _, ran, cause, same⟩

end Session

end Receipt
