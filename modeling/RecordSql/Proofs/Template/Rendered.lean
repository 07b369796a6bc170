import RecordSql.Proofs.Dialect.Keyed
import RecordSql.Proofs.Template.Sliced

/-!
# Templates are rendered segment by segment

Every segment of a template has an image or fails: a quoted section and a plain character stand for themselves, a placeholder takes the
next argument, and a token stands for what it denotes (`Segment.Image`, `Segment.Fails`). A template is rendered as the images of its
segments, one after the other; it fails with the fault of the first segment that fails, or else because arguments are left over
(`render_segments`).
-/

namespace RecordSql.Template

variable (d : Dialect) (ctx : TemplateContext)

/-! ## What tokens denote -/

/-- The names of fragments. -/
def fragmentNames : List String :=
  ["ModelName", "Columns", "Values", "Conditions"]

/-- What a token stands for. A token that has no such statement stands for nothing. -/
inductive Token.Denotes : Token → Statement → Prop
  | dollar : Denotes .dollar (.ofText "$")
  /-- The fragment that is supplied for a name. -/
  | supplied {word : List Char} {s : Statement} (hname : String.ofList word ∈ fragmentNames)
      (h : ctx.fragment? (String.ofList word) = some s) : Denotes (.named word) s
  /-- The table of the model, where nothing else is supplied. -/
  | table {word : List Char} (hname : String.ofList word = "ModelName") (h : ctx.fragment? "ModelName" = none) :
      Denotes (.named word) (.ofText (d.quoteName ctx.model.name))
  /-- The columns of the model, where nothing else is supplied. -/
  | columns {word : List Char} (hname : String.ofList word = "Columns") (h : ctx.fragment? "Columns" = none) :
      Denotes (.named word) (.ofText (", ".intercalate (ctx.model.columns.map d.quoteName)))
  /-- The column of the field of a name. -/
  | field {name : List Char} {f : Field} (h : ctx.model.field? (String.ofList name) = some f) :
      Denotes (.field name) (.ofText (d.quoteName f.column))
  /-- The column of the field at a position. -/
  | position {digits : List Char} {n : Nat} {f : Field} (hn : offset? digits = some n) (h : ctx.model.fieldAt? n = some f) :
      Denotes (.position digits) (.ofText (d.quoteName f.column))

/-- A name stands for the fragment that is supplied for it, or for the table or the columns of the model. -/
theorem named?_eq_some_iff {word : List Char} {s : Statement} :
    named? d ctx (String.ofList word) = some s ↔ (Token.named word).Denotes d ctx s := by
  constructor
  · intro h
    unfold named? at h
    split at h
    · rename_i hname
      rw [hname] at h
      cases hs : ctx.fragment? "ModelName" with
      | none =>
        rw [hs] at h
        cases h
        exact .table hname hs
      | some t =>
        rw [hs] at h
        cases h
        exact .supplied (by simp [hname, fragmentNames]) (by rw [hname, hs]; rfl)
    split at h
    · rename_i hname
      rw [hname] at h
      cases hs : ctx.fragment? "Columns" with
      | none =>
        rw [hs, d.quoteNames_eq] at h
        cases h
        exact .columns hname hs
      | some t =>
        rw [hs] at h
        cases h
        exact .supplied (by simp [hname, fragmentNames]) (by rw [hname, hs]; rfl)
    split at h
    · rename_i hname
      refine .supplied ?_ h
      rcases hname with hname | hname <;> simp [hname, fragmentNames]
    · cases h
  · intro h
    cases h with
    | supplied hname h =>
      simp only [fragmentNames, List.mem_cons, List.not_mem_nil, or_false] at hname
      unfold named?
      rcases hname with hname | hname | hname | hname <;> rw [hname] at h ⊢ <;> simp [h]
    | table hname h => simp [named?, hname, h]
    | columns hname h => simp [named?, hname, h, d.quoteNames_eq]

/-- What is substituted for the token that follows a dollar sign is what the token denotes. -/
theorem substitute?_eq_some_iff (cs : List Char) {s : Statement} :
    substitute? d ctx (Token.read cs).1.chars = some s ↔ (Token.read cs).1.Denotes d ctx s := by
  unfold Token.read
  split
  · -- a dollar sign
    constructor
    · intro h
      cases h
      exact .dollar
    · intro h
      cases h
      rfl
  · -- digits
    rw [Token.chars, substitute?]
    simp only [Option.bind_eq_bind, Option.bind_eq_some_iff]
    constructor
    · rintro ⟨n, hn, f, hf, h⟩
      cases h
      exact .position hn hf
    · intro h
      cases h with
      | position hn hf => exact ⟨_, hn, _, hf, rfl⟩
  · -- the name of a field
    rw [Token.chars, substitute?]
    simp only [Option.bind_eq_bind, Option.bind_eq_some_iff]
    constructor
    · rintro ⟨f, hf, h⟩
      cases h
      exact .field hf
    · intro h
      cases h with
      | field hf => exact ⟨_, hf, rfl⟩
  · -- a name, which does not start like any of these
    rename_i hdollar hposition hfield
    have hcut := List.takeWhile_append_dropWhile (p := isWordChar) (l := cs)
    rw [Token.chars, ← named?_eq_some_iff, substitute?]
    · intro heq
      rw [heq] at hcut
      exact hdollar _ hcut.symm
    · intro digits heq
      rw [heq] at hcut
      exact hposition _ hcut.symm
    · intro name heq
      rw [heq] at hcut
      exact hfield _ hcut.symm

/-! ## Images -/

/-- What a segment comes to when some arguments are left for it, and the arguments that are left after it. -/
inductive Segment.Image : Segment → List Value → Statement → List Value → Prop
  | quoted (text : List Char) (args : List Value) : Image (.quoted text) args (.ofText (String.ofList text)) args
  | plain (c : Char) (args : List Value) : Image (.plain c) args (.ofText (String.singleton c)) args
  | hole (v : Value) (args : List Value) : Image .hole (v :: args) ⟨"?", [v]⟩ args
  | token {t : Token} {s : Statement} (h : t.Denotes d ctx s) (args : List Value) : Image (.token t) args s args

/-- The fault of a segment that comes to nothing, in a template with `total` arguments. -/
inductive Segment.Fails (total : Nat) : Segment → List Value → Fault → Prop
  | hole : Fails total .hole [] (.tooFewArguments total)
  | token {t : Token} (h : ∀ s, ¬ t.Denotes d ctx s) (args : List Value) :
      Fails total (.token t) args (.unknownPlaceholder (String.ofList ('$' :: t.chars)))

/-- The images of segments in order. Each segment starts with the arguments that the one before it leaves. -/
inductive Images : List Segment → List Value → List Statement → List Value → Prop
  | nil (args : List Value) : Images [] args [] args
  | cons {segment : Segment} {rest : List Segment} {args next left : List Value} {s : Statement} {images : List Statement}
      (hfirst : segment.Image d ctx args s next) (hrest : Images rest next images left) :
      Images (segment :: rest) args (s :: images) left

/-- Statements one after the other. -/
def joined (images : List Statement) : Statement :=
  ⟨String.join (images.map (·.sql)), images.flatMap (·.args)⟩

theorem joined_cons (s : Statement) (images : List Statement) : joined (s :: images) = s ++ joined images := by
  have hsql : String.join ((s :: images).map (·.sql)) = s.sql ++ String.join (images.map (·.sql)) := by
    rw [List.map_cons, String.join_cons]
  exact congrArg₂ Statement.mk hsql rfl

/-- Of some segments each has an image, or there is a first one that fails. -/
theorem images_or_fails (total : Nat) (segments : List Segment) (args : List Value) :
    (∃ images left, Images d ctx segments args images left) ∨
    ∃ before segment after images left f, segments = before ++ segment :: after ∧ Images d ctx before args images left ∧
      segment.Fails d ctx total left f := by
  induction segments generalizing args with
  | nil => exact .inl ⟨[], args, .nil args⟩
  | cons segment rest ih =>
    have hfirst : (∃ s next, segment.Image d ctx args s next) ∨ ∃ f, segment.Fails d ctx total args f := by
      cases segment with
      | quoted text => exact .inl ⟨_, _, .quoted text args⟩
      | plain c => exact .inl ⟨_, _, .plain c args⟩
      | hole =>
        cases args with
        | nil => exact .inr ⟨_, .hole⟩
        | cons v args => exact .inl ⟨_, _, .hole v args⟩
      | token t =>
        by_cases h : ∃ s, t.Denotes d ctx s
        · obtain ⟨s, hs⟩ := h
          exact .inl ⟨_, _, .token hs args⟩
        · exact .inr ⟨_, .token (not_exists.mp h) args⟩
    rcases hfirst with ⟨s, next, himage⟩ | ⟨f, hf⟩
    · rcases ih next with ⟨images, left, himages⟩ | ⟨before, last, after, images, left, f, rfl, himages, hf⟩
      · exact .inl ⟨_, _, .cons himage himages⟩
      · exact .inr ⟨segment :: before, last, after, _, _, f, rfl, .cons himage himages, hf⟩
    · exact .inr ⟨[], segment, rest, [], args, f, rfl, .nil args, hf⟩

/-! ## Rendering one segment -/

section Step

variable (total : Nat)

/-- A character that is neither a placeholder nor the start of a token is copied. -/
theorem renderFrom_copied {s : Text.Section} {c : Char} (hc : s = none → c ≠ '?' ∧ c ≠ '$') (args : List Value) (cs : List Char) :
    renderFrom d ctx total s args (c :: cs) =
      put (.ofText (String.singleton c)) (renderFrom d ctx total (s.step c) args cs) := by
  have hne : (s.isNone && c == '?') = false ∧ (s.isNone && c == '$') = false := by
    cases s with
    | none => simpa using hc rfl
    | some q => exact ⟨rfl, rfl⟩
  rw [renderFrom.eq_def]
  simp only [hne.1, hne.2, Bool.false_eq_true, if_false]
  cases renderFrom d ctx total (s.step c) args cs <;> rfl

/-- What stands in a quoted section is copied. -/
theorem renderFrom_section {quote : Char} {content : List Char} (h : quote ∉ content) (args : List Value) (rest : List Char) :
    renderFrom d ctx total (some quote) args (content ++ rest) =
      put (.ofText (String.ofList content)) (renderFrom d ctx total (some quote) args rest) := by
  induction content with
  | nil => exact (put_empty _).symm
  | cons c content ih =>
    rw [List.mem_cons, not_or] at h
    have hstep : Text.Section.step (some quote) c = some quote := by
      simp [Text.Section.step, Ne.symm h.1]
    rw [List.cons_append, renderFrom_copied d ctx total (by simp), hstep, ih h.2, put_put, String.ofList_cons, ofText_append]

/-- A quoted section is copied with its quotes, and the scanner has left it at its end. -/
theorem renderFrom_quoted {quote : Char} (h : Text.isQuote quote = true) (args : List Value) (cs : List Char) :
    renderFrom d ctx total none args (quote :: cs) =
      put (.ofText (String.ofList (readQuoted quote cs).1)) (renderFrom d ctx total none args (readQuoted quote cs).2) := by
  have hopen : Text.Section.step none quote = some quote := by
    simp [Text.Section.step, h]
  have hclose : Text.Section.step (some quote) quote = none := by
    simp [Text.Section.step]
  have hne : quote ≠ '?' ∧ quote ≠ '$' := by
    constructor <;> rintro rfl <;> revert h <;> decide
  rw [renderFrom_copied d ctx total (fun _ => hne), hopen]
  rcases readQuoted_cases quote cs with ⟨hcontent, hread⟩ | ⟨content, rest, hcontent, rfl, hread⟩
  · have hrest := renderFrom_section d ctx total hcontent args []
    rw [List.append_nil] at hrest
    rw [hread, hrest, put_put, String.ofList_cons, ofText_append, renderFrom.eq_1, renderFrom.eq_1]
  · rw [hread, renderFrom_section d ctx total hcontent, renderFrom_copied d ctx total (by simp), hclose, put_put, put_put,
      List.cons_append, String.ofList_cons, String.ofList_append, ofText_append, ofText_append, Statement.append_assoc]
    rfl

/-- A token is replaced by what is substituted for it, and rendering goes on behind it. -/
theorem renderFrom_token (args : List Value) (cs : List Char) :
    renderFrom d ctx total none args ('$' :: cs) =
      match substitute? d ctx (Token.read cs).1.chars with
      | some s => put s (renderFrom d ctx total none args (Token.read cs).2)
      | none => .error (.unknownPlaceholder (String.ofList ('$' :: (Token.read cs).1.chars))) := by
  rw [renderFrom.eq_def]
  have hhole : ((Option.isNone (none : Text.Section) && '$' == '?') : Bool) = false := by decide
  have htoken : ((Option.isNone (none : Text.Section) && '$' == '$') : Bool) = true := by decide
  simp only [hhole, htoken, Bool.false_eq_true, if_false, if_true, Token.take_tokenLength, Token.drop_tokenLength]
  cases substitute? d ctx (Token.read cs).1.chars with
  | none => rfl
  | some s => cases renderFrom d ctx total none args (Token.read cs).2 <;> rfl

/-- A placeholder of a template takes the next argument. -/
theorem renderFrom_hole (v : Value) (args : List Value) (cs : List Char) :
    renderFrom d ctx total none (v :: args) ('?' :: cs) = put ⟨"?", [v]⟩ (renderFrom d ctx total none args cs) := by
  rw [renderFrom.eq_def]
  simp only [Option.isNone_none, beq_self_eq_true, Bool.and_self, if_true]
  cases renderFrom d ctx total none args cs <;> rfl

/-- The first segment of a template is put before the rest when it has an image, and its fault is that of the template when it fails. -/
theorem renderFrom_segment (c : Char) (cs : List Char) : ∃ segment rest, segments (c :: cs) = segment :: segments rest ∧
    (∀ args s left, segment.Image d ctx args s left →
      renderFrom d ctx total none args (c :: cs) = put s (renderFrom d ctx total none left rest)) ∧
    ∀ args f, segment.Fails d ctx total args f → renderFrom d ctx total none args (c :: cs) = .error f := by
  rw [segments]
  split
  · rename_i hquote
    refine ⟨_, _, rfl, ?_, ?_⟩
    · intro args s left himage
      cases himage
      exact renderFrom_quoted d ctx total hquote args cs
    · intro args f hfails
      cases hfails
  split
  · rename_i hc
    subst hc
    refine ⟨_, _, rfl, ?_, ?_⟩
    · intro args s left himage
      cases himage
      exact renderFrom_hole d ctx total _ left cs
    · intro args f hfails
      cases hfails
      rw [renderFrom.eq_def]
      rfl
  split
  · rename_i hc
    subst hc
    refine ⟨_, _, rfl, ?_, ?_⟩
    · intro args s left himage
      cases himage with
      | token hdenotes => rw [renderFrom_token, (substitute?_eq_some_iff d ctx cs).mpr hdenotes]
    · intro args f hfails
      cases hfails with
      | token hnone =>
        have hsubstitute : substitute? d ctx (Token.read cs).1.chars = none := by
          refine Option.eq_none_iff_forall_ne_some.mpr fun s hs => hnone s ?_
          exact (substitute?_eq_some_iff d ctx cs).mp hs
        rw [renderFrom_token, hsubstitute]
  · rename_i hquote hhole htoken
    refine ⟨_, _, rfl, ?_, ?_⟩
    · intro args s left himage
      cases himage
      have hstep : Text.Section.step none c = none := by
        simp [Text.Section.step, hquote]
      have hcopied := renderFrom_copied d ctx total (s := none) (fun _ => ⟨hhole, htoken⟩) args cs
      rwa [hstep] at hcopied
    · intro args f hfails
      cases hfails

/-! ## Rendering all segments -/

/-- A template whose segments have images starts with these. -/
theorem renderFrom_of_images {front rest : List Segment} {args left : List Value} {images : List Statement}
    (h : Images d ctx front args images left) (cs : List Char) (hcs : segments cs = front ++ rest) : ∃ behind,
      segments behind = rest ∧
      renderFrom d ctx total none args cs = put (joined images) (renderFrom d ctx total none left behind) := by
  -- the induction goes along the images, each of which takes one segment off the template
  induction h generalizing cs with
  | nil args => exact ⟨cs, hcs, (put_empty _).symm⟩
  | @cons segment _ _ _ _ s images hfirst _ ih =>
    cases cs with
    | nil =>
      rw [segments] at hcs
      cases hcs
    | cons c cs =>
      obtain ⟨first, next, hsegments, himage, -⟩ := renderFrom_segment d ctx total c cs
      rw [hsegments, List.cons_append, List.cons.injEq] at hcs
      obtain ⟨rfl, hnext⟩ := hcs
      obtain ⟨behind, hbehind, hrest⟩ := ih next hnext
      exact ⟨behind, hbehind, by rw [himage _ _ _ hfirst, hrest, put_put, joined_cons]⟩

/-- Behind segments that have images a segment that fails ends rendering with its fault. -/
theorem renderFrom_of_fails {before after : List Segment} {segment : Segment} {args left : List Value} {images : List Statement}
    {f : Fault} (h : Images d ctx before args images left) (hf : segment.Fails d ctx total left f) (cs : List Char)
    (hcs : segments cs = before ++ segment :: after) : renderFrom d ctx total none args cs = .error f := by
  obtain ⟨behind, hbehind, hrender⟩ := renderFrom_of_images d ctx total h cs hcs
  rw [hrender]
  cases behind with
  | nil =>
    rw [segments] at hbehind
    cases hbehind
  | cons c cs =>
    obtain ⟨first, next, hsegments, -, hfails⟩ := renderFrom_segment d ctx total c cs
    rw [hsegments, List.cons.injEq] at hbehind
    obtain ⟨rfl, -⟩ := hbehind
    rw [hfails _ _ hf]
    rfl

end Step

/-- A template whose first segments have images and whose next segment fails has the fault of that segment. -/
theorem render_of_fails {skeleton : Statement} {before after : List Segment} {segment : Segment} {images : List Statement}
    {left : List Value} {f : Fault} (hsegments : segments skeleton.sql.toList = before ++ segment :: after)
    (h : Images d ctx before skeleton.args images left) (hf : segment.Fails d ctx skeleton.args.length left f) :
    render d skeleton ctx = .error f := by
  rw [render, renderFrom_of_fails d ctx skeleton.args.length h hf _ hsegments]
  rfl

/-- A template whose segments all have images comes to these when every argument is taken. -/
theorem render_of_images {skeleton : Statement} {images : List Statement} {left : List Value}
    (h : Images d ctx (segments skeleton.sql.toList) skeleton.args images left) :
    render d skeleton ctx = if left = [] then .ok (joined images) else .error (.tooManyArguments skeleton.args.length) := by
  obtain ⟨behind, hbehind, hrender⟩ := renderFrom_of_images d ctx skeleton.args.length h _ (List.append_nil _).symm
  have hnil : behind = [] := by
    rw [← flatMap_chars_segments behind, hbehind]
    rfl
  have hend : renderFrom d ctx skeleton.args.length none skeleton.args skeleton.sql.toList = .ok (joined images, left) := by
    rw [hrender, hnil, renderFrom.eq_1]
    simp only [put, Except.map, Statement.append_empty]
  rw [render, hend]
  cases left <;> rfl

/-- A template is rendered as the images of its segments exactly when each has one and no argument is left over. -/
theorem render_eq_ok_iff {skeleton s : Statement} : render d skeleton ctx = .ok s ↔
    ∃ images, Images d ctx (segments skeleton.sql.toList) skeleton.args images [] ∧ s = joined images := by
  constructor
  · intro h
    have hends := images_or_fails d ctx skeleton.args.length (segments skeleton.sql.toList) skeleton.args
    rcases hends with ⟨images, left, himages⟩ | ⟨before, segment, after, images, left, f, hsegments, himages, hf⟩
    · have hrender := render_of_images d ctx himages
      rw [h] at hrender
      cases left with
      | nil => exact ⟨images, himages, Except.ok.inj hrender⟩
      | cons v left => cases hrender
    · rw [render_of_fails d ctx hsegments himages hf] at h
      cases h
  · rintro ⟨images, himages, rfl⟩
    exact render_of_images d ctx himages

end RecordSql.Template
