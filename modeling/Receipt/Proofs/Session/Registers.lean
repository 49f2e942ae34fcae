import Receipt.Proofs.Session.History
import Receipt.Proofs.Sink.Transcript

/-!
# The style of the printer and the style of the session

A printer keeps a register for each of the six attributes of text.  A setting changes its register,
and a reset makes all of them plain.  The session remembers the style it set last and sends the
settings that differ from it alone.  The two stay in step: as long as the session is connected, the
style it remembers consists of the last settings written since the last reset, and it remembers none
exactly when there are none.
-/

set_option autoImplicit false

namespace Receipt

/-- The attributes of text. -/
inductive Attribute where
  | size
  | doubleStrike
  | underline
  | weight
  | color
  | reverse
  deriving DecidableEq, Repr

/-- The attribute that a setting gives its value. -/
def Setting.attribute : Setting → Attribute
  | size _ => .size
  | doubleStrike _ => .doubleStrike
  | underline _ => .underline
  | weight _ => .weight
  | color _ => .color
  | reverse _ => .reverse

namespace TextStyle

/-- The setting of one attribute of a style. -/
def setting (style : TextStyle) : Attribute → Setting
  | .size => .size style.size
  | .doubleStrike => .doubleStrike style.doubleStrike
  | .underline => .underline style.underline
  | .weight => .weight style.weight
  | .color => .color style.color
  | .reverse => .reverse style.reverse

/-- A style is known by its settings. -/
theorem eq_of_setting_eq {a b : TextStyle} (h : ∀ kind, a.setting kind = b.setting kind) :
    a = b := by
  obtain ⟨size, color, reverse, weight, underline, doubleStrike⟩ := a
  have sizes := h .size
  have strikes := h .doubleStrike
  have underlines := h .underline
  have weights := h .weight
  have colors := h .color
  have reverses := h .reverse
  simp only [setting, Setting.size.injEq, Setting.doubleStrike.injEq, Setting.underline.injEq,
    Setting.weight.injEq, Setting.color.injEq, Setting.reverse.injEq]
    at sizes strikes underlines weights colors reverses
  subst sizes strikes underlines weights colors reverses
  rfl

/-- The settings of a style are those of its attributes. -/
theorem mem_settings_iff (style : TextStyle) (change : Setting) :
    change ∈ style.settings ↔ style.setting change.attribute = change := by
  cases change <;> simp [settings, setting, Setting.attribute, eq_comm]

/-- A change of a style sets its own attribute and no other. -/
theorem setting_apply (style : TextStyle) (change : Setting) (kind : Attribute) :
    (style.apply change).setting kind =
      if change.attribute = kind then change else style.setting kind := by
  cases change <;> cases kind <;> rfl

/-- A style has a setting if its attribute is set so. -/
theorem has_eq_true_iff (style : TextStyle) (change : Setting) :
    style.has change = true ↔ style.setting change.attribute = change := by
  rw [has, beq_iff_eq]
  constructor
  · intro same
    have own := setting_apply style change change.attribute
    rw [same, if_pos rfl] at own
    exact own
  · intro set
    apply eq_of_setting_eq
    intro kind
    rw [setting_apply]
    split
    · next own => rw [← own, set]
    · rfl

/-- The registers of a printer behind a command. -/
def follow (registers : TextStyle) : Command → TextStyle
  | .reset => plain
  | .set change => registers.apply change
  | _ => registers

/-- The registers of a printer behind commands. -/
def followAll (registers : TextStyle) (commands : List Command) : TextStyle :=
  commands.foldl follow registers

end TextStyle

namespace Attribute

/-- What a command leaves of the last setting of an attribute. -/
def afterCommand (kind : Attribute) (last : Option Setting) : Command → Option Setting
  | .reset => none
  | .set change => if change.attribute = kind then some change else last
  | _ => last

/-- The last setting of an attribute among commands, counted from their last reset on. -/
def lastSetting (kind : Attribute) (commands : List Command) : Option Setting :=
  commands.foldl kind.afterCommand none

/-- A register that holds the last setting of its attribute holds it behind one more command. -/
theorem setting_follow {kind : Attribute} {last : Option Setting} {registers : TextStyle}
    (held : ∀ change, last = some change → registers.setting kind = change) (command : Command) :
    ∀ change, kind.afterCommand last command = some change →
      (registers.follow command).setting kind = change := by
  intro change final
  cases command with
  | reset => cases final
  | set other =>
      rw [TextStyle.follow, TextStyle.setting_apply]
      rw [afterCommand] at final
      split
      · next own => rw [if_pos own] at final; exact Option.some.inj final
      · next others => rw [if_neg others] at final; exact held change final
  | _ => exact held change final

/-- A register holds the last setting of its attribute, whatever it held at first. -/
theorem setting_followAll {kind : Attribute} {commands : List Command} {change : Setting}
    (h : kind.lastSetting commands = some change) (registers : TextStyle) :
    (registers.followAll commands).setting kind = change := by
  have run : ∀ (last : Option Setting) (registers : TextStyle),
      (∀ known, last = some known → registers.setting kind = known) →
      commands.foldl kind.afterCommand last = some change →
      (registers.followAll commands).setting kind = change := by
    clear h
    induction commands with
    | nil => exact fun last registers held final => held change final
    | cons command rest ih =>
        intro last registers held final
        exact ih _ _ (setting_follow held command) final
  exact run none registers (fun known impossible => by cases impossible) h

/-- Settings of one style leave an attribute as in that style if they set it or it was set so
before. -/
theorem lastSetting_append_settings {kind : Attribute} {style : TextStyle} (written : List Command)
    {changes : List Setting} (own : ∀ change ∈ changes, change ∈ style.settings)
    (h : style.setting kind ∈ changes ∨ kind.lastSetting written = some (style.setting kind)) :
    kind.lastSetting (written ++ changes.map .set) = some (style.setting kind) := by
  rw [lastSetting, List.foldl_append, ← lastSetting]
  generalize kind.lastSetting written = last at h
  induction changes generalizing last with
  | nil => exact h.resolve_left List.not_mem_nil
  | cons change rest ih =>
      rw [List.forall_mem_cons] at own
      rw [List.map_cons, List.foldl_cons]
      apply ih own.2
      have set := (style.mem_settings_iff change).mp own.1
      rw [afterCommand]
      split
      · next same => exact Or.inr (by rw [← set, same])
      · next other =>
          rcases h with mem | known
          · rcases List.mem_cons.mp mem with here | later
            · refine absurd ?_ other
              rw [← here]
              cases kind <;> rfl
            · exact Or.inl later
          · exact Or.inr known

end Attribute

/-- Whether a command leaves all registers as they are. -/
def Command.isQuiet : Command → Bool
  | reset => false
  | set _ => false
  | _ => true

/-- Quiet commands leave the last settings as they are. -/
theorem Attribute.lastSetting_append_quiet (kind : Attribute) (written : List Command)
    {quiet : List Command} (h : quiet.all Command.isQuiet = true) :
    kind.lastSetting (written ++ quiet) = kind.lastSetting written := by
  rw [List.all_eq_true] at h
  rw [lastSetting, List.foldl_append, ← lastSetting]
  generalize kind.lastSetting written = last
  induction quiet with
  | nil => rfl
  | cons command rest ih =>
      rw [List.forall_mem_cons] at h
      rw [List.foldl_cons]
      have unchanged : kind.afterCommand last command = last := by
        cases command with
        | reset | set change => cases h.1
        | _ => rfl
      rw [unchanged]
      exact ih h.2

/-- Whether a style consists of the last settings that were written, and is not known if there are
none. -/
def Agrees (written : List Command) (style : Option TextStyle) : Prop :=
  ∀ kind : Attribute, kind.lastSetting written = style.map (fun known => known.setting kind)

namespace Agrees

variable {written : List Command} {previous : Option TextStyle}

/-- Quiet commands are no reason to disagree. -/
theorem append_quiet (h : Agrees written previous) {quiet : List Command}
    (silent : quiet.all Command.isQuiet = true) : Agrees (written ++ quiet) previous := by
  intro kind
  rw [kind.lastSetting_append_quiet written silent]
  exact h kind

/-- Behind a reset nothing is known of the style. -/
theorem append_reset : Agrees (written ++ [.reset]) none := by
  intro kind
  rw [Attribute.lastSetting, List.foldl_append]
  rfl

/-- The settings that change are those that were not the last written ones of their attribute. -/
theorem changes_eq (h : Agrees written previous) (style : TextStyle) :
    style.changes previous = style.settings.filter
      (fun change => change.attribute.lastSetting written ≠ some change) := by
  cases previous with
  | none =>
      rw [TextStyle.changes]
      symm
      rw [List.filter_eq_self]
      intro change mem
      rw [h change.attribute]
      rfl
  | some before =>
      rw [TextStyle.changes]
      apply List.filter_congr
      intro change mem
      rw [h change.attribute, Bool.eq_iff_iff, Bool.not_eq_true', Bool.eq_false_iff,
        ne_eq, before.has_eq_true_iff change]
      simp

/-- Behind the settings that change the new style is known. -/
theorem append_changes (h : Agrees written previous) (style : TextStyle) :
    Agrees (written ++ (style.changes previous).map .set) (some style) := by
  intro kind
  have own : style.setting kind ∈ style.settings := by
    rw [TextStyle.mem_settings_iff]
    cases kind <;> rfl
  have about : (style.setting kind).attribute = kind := by
    cases kind <;> rfl
  rw [h.changes_eq]
  apply Attribute.lastSetting_append_settings written
  · intro change mem
    exact (List.mem_filter.mp mem).1
  · by_cases known : kind.lastSetting written = some (style.setting kind)
    · exact Or.inr known
    · refine Or.inl (List.mem_filter.mpr ⟨own, ?_⟩)
      rw [about]
      exact decide_eq_true known

/-- The registers of a printer hold the style that is known. -/
theorem followAll_eq {style : TextStyle} (h : Agrees written (some style))
    (registers : TextStyle) : registers.followAll written = style := by
  apply TextStyle.eq_of_setting_eq
  intro kind
  exact Attribute.setting_followAll (h kind) registers

end Agrees

end Receipt
