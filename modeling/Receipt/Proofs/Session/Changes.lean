import Receipt.Proofs.Session.Registers

/-!
# Only settings that change are sent

A session works on a sink whose sends fail as they like.  In every history of such a session the
style that it remembers agrees with the settings it wrote, whatever operations the history consists
of and wherever they failed.  So the registers of the printer hold the style of a text whenever its
bytes are written, and a setting is written exactly if it is not the one that was written last.
-/

set_option autoImplicit false

namespace Receipt

/-- What is sent one by one is written in its order. -/
theorem Move.commands_sendEach (commands : List Command) :
    Move.commands (Move.sendEach commands) = commands := by
  induction commands with
  | nil => rfl
  | cons command rest ih =>
      have head : Move.commands (Move.sendEach (command :: rest)) =
          command :: Move.commands (Move.sendEach rest) := rfl
      rw [head, ih]

namespace Transcript

variable {σ : Type} [Sink σ]

/-- Moves write some of their commands, in order, and leave out those behind a send that fails. -/
theorem commands_perform (moves : List Move) (transcript : Transcript σ) :
    ∃ done, done <+: Move.commands moves ∧
      (Sink.perform moves transcript).2.commands = transcript.commands ++ done := by
  induction moves generalizing transcript with
  | nil => exact ⟨[], List.prefix_rfl, (List.append_nil _).symm⟩
  | cons move rest ih =>
      cases move with
      | write command =>
          obtain ⟨done, part, written⟩ := ih (Sink.write transcript command)
          refine ⟨command :: done, ?_, ?_⟩
          · exact (List.prefix_cons_inj command).mpr part
          · rw [Sink.perform, written]
            exact List.append_cons _ _ _ ▸ rfl
      | send extra =>
          rw [Sink.perform]
          have kept : (Sink.send transcript extra).2.commands = transcript.commands := rfl
          cases sent : Sink.send transcript extra with
          | mk result left =>
              rw [sent] at kept
              cases result with
              | ok =>
                  obtain ⟨done, part, written⟩ := ih left
                  exact ⟨done, part, by rw [written, kept]⟩
              | error failure => exact ⟨[], List.nil_prefix, by rw [kept, List.append_nil]⟩

end Transcript

/-- The commands that print an image leave the registers of the printer as they are. -/
theorem Action.all_isQuiet_imageCommands {strips : Bool} {image : Raster}
    {commands : List Command} (h : imageCommands strips image = .ok commands) :
    commands.all Command.isQuiet = true := by
  unfold imageCommands at h
  split at h
  · split at h
    · next parts cut =>
      cases h
      have between : (parts.map Command.strip).all Command.isQuiet = true := by
        rw [List.all_map, List.all_eq_true]
        exact fun part mem => rfl
      rw [List.all_cons, List.all_append, between]
      rfl
    · cases h
  · cases h
    rfl

namespace Output

/-- What is written before a text leaves its style known. -/
theorem agrees_textOpening {written : List Command} {previous : Option TextStyle}
    (h : Agrees written previous) (profile : Profile) (style : TextStyle) :
    Agrees (written ++ textOpening profile previous style) (some style) := by
  have selected : Agrees (written ++ [.selectTable profile.charset.id]) previous :=
    h.append_quiet rfl
  have set := selected.append_changes style
  rw [List.append_assoc] at set
  exact set

/-- The page that shows a table leaves plain settings. -/
theorem agrees_tableCommands (written : List Command) (id : UInt8) :
    Agrees (written ++ Action.tableCommands id) (some .plain) := by
  intro kind
  rw [Attribute.lastSetting, List.foldl_append]
  cases kind <;> rfl

/-- The style of a plan agrees with the commands that its moves write before the first of them that
can fail; those behind leave the registers as they are. -/
theorem agrees_plan {profile : Profile} {strips : Bool} {style : Option TextStyle}
    {output : Output} {asked : Plan} {written : List Command}
    (planned : output.plan profile strips style = .ok asked) (h : Agrees written style) :
    ∃ (front : List Command) (back : List Move), asked.moves = front.map .write ++ back ∧
      Agrees (written ++ front) asked.style ∧
      (Move.commands back).all Command.isQuiet = true := by
  -- Only a reset, a text and a page write settings, all of them before their first send.
  have stay : Agrees (written ++ []) style := h.append_quiet rfl
  cases output with
  | reset =>
      cases planned
      exact ⟨[.reset], [], rfl, Agrees.append_reset, rfl⟩
  | justify alignment | barcode code | qr model content moduleSize | flush | cut | openDrawer =>
      cases planned
      exact ⟨[], _, rfl, stay, rfl⟩
  | newLine alignment =>
      cases planned
      refine ⟨[], _, rfl, stay, ?_⟩
      cases alignment <;> rfl
  | feed dots =>
      cases planned
      refine ⟨[], if dots = 0 then [] else [.write (.feed dots), .send dots], rfl, stay, ?_⟩
      split <;> rfl
  | text content wanted =>
      rw [Output.plan] at planned
      split at planned
      · next bytes encoded =>
        cases planned
        refine ⟨textOpening profile style wanted ++ [.text bytes], [], by simp, ?_, rfl⟩
        rw [← List.append_assoc]
        exact (agrees_textOpening h profile wanted).append_quiet rfl
      · cases planned
  | image picture =>
      rw [Output.plan] at planned
      split at planned
      · next commands found =>
        cases planned
        refine ⟨[], Move.sendEach commands, rfl, stay, ?_⟩
        rw [Move.commands_sendEach]
        exact Action.all_isQuiet_imageCommands found
      · cases planned
  | table id =>
      cases planned
      exact ⟨Action.tableCommands id, _, rfl, agrees_tableCommands written id, rfl⟩

end Output

/-- A session that remembers the style which its transcript leaves; nothing is asked of a session
without a connection. -/
def Session.Tracked {σ : Type} [Sink σ] (session : Session (Transcript σ)) : Prop :=
  session.isConnected = true → Agrees session.sink.commands session.style

namespace Session

variable {σ : Type} [Sink σ]

/-- A fresh session on an empty transcript is tracked. -/
theorem tracked_start (profile : Profile) (sink : σ) :
    (start profile (Transcript.ofSink sink)).Tracked :=
  fun _ _ => rfl

/-- Every output keeps a session tracked, also one that fails midway. -/
theorem tracked_output (output : Output) {session : Session (Transcript σ)}
    (h : session.Tracked) : (output.run.state session).Tracked := by
  cases connected : session.isConnected with
  | false =>
      rw [Action.state, output.run_of_not_connected connected]
      exact h
  | true =>
      rw [Action.state, output.run_of_connected connected]
      cases planned : output.plan session.profile session.strips session.style with
      | error failure => exact h
      | ok plan =>
          -- The front is written whatever fails, and what is written of the back is quiet.
          obtain ⟨front, back, moves, known, quiet⟩ := Output.agrees_plan planned (h connected)
          obtain ⟨done, part, written⟩ := Transcript.commands_perform back
            (front.foldl Sink.write session.sink)
          rw [Transcript.commands_foldl_write] at written
          have silent : done.all Command.isQuiet = true := by
            rw [List.all_eq_true] at quiet ⊢
            exact fun command mem => quiet command (part.subset mem)
          have behind := known.append_quiet silent
          rw [← written] at behind
          simp only [Action.fulfil, Action.perform, moves, Sink.perform_writes_append]
          cases made : Sink.perform back (front.foldl Sink.write session.sink) with
          | mk result left =>
              rw [made] at behind
              cases result with
              | ok | error => exact fun _ => behind

/-- Behind any step a session still remembers the style that its transcript leaves. -/
theorem tracked_step [Sink.Releasing σ] (step : Step) (session : Session (Transcript σ))
    (h : session.Tracked) : (step.run.state session).Tracked := by
  cases step with
  | output output => exact tracked_output output h
  | useStrips enable => exact h
  | disconnect =>
      intro connected
      have released : (session.disconnect).isConnected = false :=
        Sink.Releasing.isConnected_disconnect session.sink
      exact absurd (released.symm.trans connected) Bool.false_ne_true

/-- In every history, whatever sends fail, a text that is written finds the registers of the printer
in its style, and of its settings those are written that were not the last ones of their attribute
since the last reset.  Nothing is written without a connection, or for a text with characters that
its table lacks. -/
theorem text_settings [Sink.Releasing σ] (profile : Profile) (sink : σ)
    (history : List Operation) (content : List Char) (style : TextStyle) :
    ∀ call ∈ Operation.historyCalls history (start profile (Transcript.ofSink sink)),
      call.step = .output (.text content style) →
      let charset := call.session.profile.charset
      let before := call.session.sink.commands
      let after := (call.step.run.state call.session).sink.commands
      let changed := style.settings.filter
        (fun change => change.attribute.lastSetting before ≠ some change)
      let opening := .selectTable charset.id :: changed.map .set
      if call.session.isConnected then
        match charset.encode content with
        | .ok bytes =>
          after = before ++ opening ++ [.text bytes] ∧
            ∀ registers : TextStyle, registers.followAll (before ++ opening) = style
        | .error _ => after = before
      else after = before := by
  intro call mem step charset before after changed opening
  have tracked : call.session.Tracked :=
    Operation.holds_of_mem_historyCalls tracked_step history (tracked_start profile sink) call mem
  have ran : after = ((Output.text content style).run.state call.session).sink.commands :=
    congrArg (fun taken : Step => (taken.run.state call.session).sink.commands) step
  clear_value after
  subst ran
  cases connected : call.session.isConnected with
  | false =>
      rw [Action.state, Output.run_of_not_connected _ connected]
      rfl
  | true =>
      have agrees := tracked connected
      rw [if_pos rfl, Action.state, Output.run_of_connected _ connected, Output.plan]
      cases encoded : charset.encode content with
      | error failure => rfl
      | ok bytes =>
          have same : changed = style.changes call.session.style := (agrees.changes_eq style).symm
          have opens : opening = Output.textOpening call.session.profile call.session.style style :=
            congrArg (fun changes => Command.selectTable charset.id :: changes.map .set) same
          have fulfilled := Action.perform_writes (opening ++ [.text bytes])
            { call.session with style := some style }
          rw [opens] at fulfilled ⊢
          simp only [Action.fulfil, fulfilled, Transcript.commands_foldl_write]
          refine ⟨(List.append_assoc _ _ _).symm, fun registers => ?_⟩
          have known := Output.agrees_textOpening agrees call.session.profile style
          exact known.followAll_eq registers

/-- A bold text, a page that shows a table, and an underlined text. -/
def pageBetweenTexts : List Operation :=
  [.output (.text ['a'] { TextStyle.plain with weight := .bold }),
    .output (.table 3),
    .output (.text ['b'] { TextStyle.plain with underline := .thin })]

/-- Their calls on a sink that refuses every send, so also that of the page. -/
def callsBehindPage : List (Call (Transcript (Failing Recorder))) :=
  Operation.historyCalls pageBetweenTexts
    (start .mm58 (Transcript.ofSink ⟨.fresh, some 0, notConnected⟩))

/-- The page left plain settings, though its send failed, so the last text sets its underline only,
and is underlined whatever the registers held at first. -/
theorem text_settings_behind_page :
    let call := callsBehindPage[2]
    let before := call.session.sink.commands
    let opening := [.selectTable 6, .set (.underline .thin)]
    (call.step.run.state call.session).sink.commands = before ++ opening ++ [.text [0x62]] ∧
      ∀ registers : TextStyle,
        registers.followAll (before ++ opening) = { TextStyle.plain with underline := .thin } :=
  text_settings .mm58 ⟨.fresh, some 0, notConnected⟩ pageBetweenTexts ['b']
    { TextStyle.plain with underline := .thin } callsBehindPage[2] (List.getElem_mem _) rfl

end Session

end Receipt
