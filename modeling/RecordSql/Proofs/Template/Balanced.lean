import RecordSql.Proofs.Dialect.Holes
import RecordSql.Proofs.Template.Rendered

/-!
# Placeholders of rendered templates

A statement is balanced when it ends outside of quoted sections and has one argument for each placeholder. What tokens denote is balanced
when the supplied fragments are, so the scanner of templates, which goes over the template, and the scanner of placeholders, which goes over
what comes out, stay in step from segment to segment (`Images.placeholderCount_joined`). A template whose tokens all stand for something is
therefore rendered exactly when it has as many placeholders as arguments, and what comes out has as many again (`render_balanced`). With its
dollar signs doubled every text is a template for itself (`renderFrom_escapedFrom`).
-/

namespace RecordSql

/-- A statement that ends outside of quoted sections and has one argument for each placeholder. -/
structure Statement.Balanced (s : Statement) : Prop where
  closed : Text.Section.after none s.sql.toList = none
  count : s.placeholderCount = s.args.length

/-- A text that can be scanned is a balanced statement. -/
theorem Statement.Balanced.ofText {text : String} (h : Text.Scans text 0) : (Statement.ofText text).Balanced :=
  ⟨h.closed, h.count⟩

/-- A placeholder with its argument. -/
theorem Statement.Balanced.hole (v : Value) : Statement.Balanced ⟨"?", [v]⟩ :=
  ⟨(by decide : Text.Section.after none "?".toList = none), (by decide : Text.placeholderCount "?" = 1)⟩

/-- Behind a balanced statement placeholders and arguments go on together. -/
theorem Statement.Balanced.count_append {s t : Statement} (h : s.Balanced) (ht : t.placeholderCount = t.args.length) :
    (s ++ t).placeholderCount = (s ++ t).args.length := by
  have hs : Text.countFrom none s.sql.toList = s.args.length := h.count
  have ht : Text.countFrom none t.sql.toList = t.args.length := ht
  rw [placeholderCount, Text.placeholderCount, sql_append, String.toList_append, Text.countFrom_append, h.closed, hs, ht, args_append,
    List.length_append]

namespace Template

/-! ## What the scanner of placeholders meets in a template -/

/-- The characters of names are plain. -/
theorem isPlain_of_isWordChar {c : Char} (h : isWordChar c = true) : Text.isPlain c = true :=
  Text.isPlain_of (by decide) h

/-- Hexadecimal digits are plain. -/
theorem isPlain_of_isHexDigit {c : Char} (h : isHexDigit c = true) : Text.isPlain c = true :=
  Text.isPlain_of (by decide) h

/-- A dollar sign is passed over. -/
theorem countFrom_dollar (cs : List Char) : Text.countFrom none ('$' :: cs) = Text.countFrom none cs :=
  Nat.zero_add _

/-- A token holds no placeholder and opens no section. -/
theorem countFrom_token (cs : List Char) : Text.countFrom none ('$' :: cs) = Text.countFrom none (Token.read cs).2 := by
  have hplain : ∀ chars rest : List Char, (∀ c ∈ chars, Text.isPlain c = true) →
      Text.countFrom none (chars ++ rest) = Text.countFrom none rest := by
    intro chars rest hchars
    exact (Text.scan_plain_append hchars rest).2.1
  rw [countFrom_dollar]
  conv_lhs => rw [← Token.chars_append_read cs]
  unfold Token.read
  split
  · exact countFrom_dollar _
  · refine hplain _ _ fun c hc => ?_
    simp only [Token.chars, List.mem_cons] at hc
    rcases hc with rfl | rfl | hc
    · decide
    · decide
    · exact isPlain_of_isHexDigit (List.mem_takeWhile_imp hc)
  · refine hplain _ _ fun c hc => ?_
    simp only [Token.chars, List.mem_cons] at hc
    rcases hc with rfl | rfl | rfl | hc
    · decide
    · decide
    · decide
    · exact isPlain_of_isWordChar (List.mem_takeWhile_imp hc)
  · exact hplain _ _ fun c hc => isPlain_of_isWordChar (List.mem_takeWhile_imp hc)

/-- A character that is no quote and no question mark is passed over. -/
theorem scan_plain {c : Char} (hquote : ¬ Text.isQuote c = true) (hhole : c ≠ '?') :
    Text.Section.step none c = none ∧ ∀ cs, Text.countFrom none (c :: cs) = Text.countFrom none cs := by
  have hstep : Text.Section.step none c = none := by
    simp [Text.Section.step, hquote]
  refine ⟨hstep, fun cs => ?_⟩
  simp [Text.countFrom, Text.isPlaceholder, hstep, hhole]

/-- Inside of a section its content is passed over. -/
theorem scan_content {quote : Char} {content : List Char} (h : quote ∉ content) :
    Text.Section.after (some quote) content = some quote ∧ Text.countFrom (some quote) content = 0 := by
  induction content with
  | nil => exact ⟨rfl, rfl⟩
  | cons c content ih =>
    rw [List.mem_cons, not_or] at h
    obtain ⟨hafter, hcount⟩ := ih h.2
    have hstep : Text.Section.step (some quote) c = some quote := by
      simp [Text.Section.step, Ne.symm h.1]
    refine ⟨?_, ?_⟩
    · rw [Text.Section.after, List.foldl_cons, hstep]
      exact hafter
    · simp [Text.countFrom, Text.isPlaceholder, hstep, hcount]

/-- A quoted section holds no placeholder. -/
theorem countFrom_readQuoted {quote : Char} (h : Text.isQuote quote = true) (cs : List Char) :
    Text.countFrom none (readQuoted quote cs).1 = 0 ∧
      Text.countFrom none (quote :: cs) = Text.countFrom none (readQuoted quote cs).2 ∧
      ((readQuoted quote cs).2 ≠ [] → Text.Section.after none (readQuoted quote cs).1 = none) := by
  have hopen : Text.Section.step none quote = some quote := by
    simp [Text.Section.step, h]
  have hclose : Text.Section.step (some quote) quote = none := by
    simp [Text.Section.step]
  have hcons : ∀ ds, Text.countFrom none (quote :: ds) = Text.countFrom (some quote) ds := by
    intro ds
    simp [Text.countFrom, Text.isPlaceholder, hopen, (Text.quote_ne h).1]
  rcases readQuoted_cases quote cs with ⟨hcontent, hread⟩ | ⟨content, rest, hcontent, rfl, hread⟩
  · rw [hread, hcons, (scan_content hcontent).2]
    exact ⟨rfl, rfl, fun hne => absurd rfl hne⟩
  · obtain ⟨hafter, hcount⟩ := scan_content hcontent
    have hend : ∀ ds, Text.countFrom (some quote) (content ++ quote :: ds) = Text.countFrom none ds := by
      intro ds
      rw [Text.countFrom_append, hafter, hcount]
      simp [Text.countFrom, Text.isPlaceholder, hclose]
    rw [hread, List.cons_append, hcons, hcons, hend, hend]
    refine ⟨rfl, rfl, fun _ => ?_⟩
    rw [Text.Section.after, List.foldl_cons, hopen]
    change Text.Section.after (some quote) (content ++ [quote]) = none
    rw [Text.Section.after_append, hafter]
    exact hclose

/-! ## What comes out -/

variable {d : Dialect} {ctx : TemplateContext}

/-- What a token stands for is balanced when the supplied fragments are. -/
theorem Token.Denotes.balanced (hfragments : ∀ name s, ctx.fragment? name = some s → s.Balanced) {t : Token} {s : Statement}
    (h : t.Denotes d ctx s) : s.Balanced := by
  cases h with
  | dollar => exact ⟨rfl, rfl⟩
  | supplied _ hs => exact hfragments _ s hs
  | table => exact .ofText (d.scans_quoteName ctx.model.name)
  | columns =>
    rw [← d.quoteNames_eq]
    exact .ofText (d.scans_quoteNames ctx.model.columns)
  | field => exact .ofText (d.scans_quoteName _)
  | position => exact .ofText (d.scans_quoteName _)

/-- The images of the segments of a text take one argument for each placeholder of the text, and have one for each placeholder of their
own. -/
theorem Images.placeholderCount_joined (hfragments : ∀ name s, ctx.fragment? name = some s → s.Balanced) {cs : List Char}
    {args left : List Value} {images : List Statement} (h : Images d ctx (segments cs) args images left) :
    args.length = Text.countFrom none cs + left.length ∧ (joined images).placeholderCount = (joined images).args.length := by
  -- the induction goes along the cut of the text; a section without end is the last segment
  fun_induction segments cs generalizing args images with
  | case1 =>
    cases h
    exact ⟨(Nat.zero_add _).symm, rfl⟩
  | case2 c cs hquote ih =>
    obtain ⟨hnone, hcount, hclosed⟩ := countFrom_readQuoted hquote cs
    cases h with
    | @cons _ _ _ _ _ _ images hfirst hrest =>
      cases hfirst
      obtain ⟨hargs, hjoined⟩ := ih hrest
      refine ⟨hcount ▸ hargs, ?_⟩
      rw [joined_cons]
      by_cases hend : (readQuoted c cs).2 = []
      · rw [hend, segments] at hrest
        cases hrest
        simpa [joined, Statement.placeholderCount, Text.placeholderCount, Statement.ofText] using hnone
      · have hbalanced : (Statement.ofText (String.ofList (readQuoted c cs).1)).Balanced :=
          ⟨by simpa [Statement.ofText] using hclosed hend,
            by simpa [Statement.ofText, Statement.placeholderCount, Text.placeholderCount] using hnone⟩
        exact hbalanced.count_append hjoined
  | case3 cs _ ih =>
    cases h with
    | cons hfirst hrest =>
      cases hfirst
      obtain ⟨hargs, hjoined⟩ := ih hrest
      have hcount : Text.countFrom none ('?' :: cs) = 1 + Text.countFrom none cs := rfl
      refine ⟨?_, ?_⟩
      · rw [hcount, List.length_cons, hargs]
        omega
      · rw [joined_cons]
        exact (Statement.Balanced.hole _).count_append hjoined
  | case4 cs _ _ ih =>
    cases h with
    | cons hfirst hrest =>
      cases hfirst with
      | token hdenotes =>
        obtain ⟨hargs, hjoined⟩ := ih hrest
        refine ⟨by rw [countFrom_token, hargs], ?_⟩
        rw [joined_cons]
        exact (hdenotes.balanced hfragments).count_append hjoined
  | case5 c cs hquote hhole _ ih =>
    cases h with
    | cons hfirst hrest =>
      cases hfirst
      obtain ⟨hargs, hjoined⟩ := ih hrest
      obtain ⟨hstep, hcount⟩ := scan_plain hquote hhole
      have hbalanced : (Statement.ofText (String.singleton c)).Balanced :=
        ⟨by simpa [Statement.ofText, Text.Section.after] using hstep,
          by simpa [Statement.ofText, Statement.placeholderCount, Text.placeholderCount, Text.countFrom] using hcount []⟩
      refine ⟨by rw [hcount, hargs], ?_⟩
      rw [joined_cons]
      exact hbalanced.count_append hjoined

/-- When all tokens of a text stand for something and there are enough arguments, all its segments have images. -/
theorem exists_images {cs : List Char} (htokens : ∀ t, Segment.token t ∈ segments cs → ∃ s, t.Denotes d ctx s) {args : List Value}
    (h : Text.countFrom none cs ≤ args.length) : ∃ images left, Images d ctx (segments cs) args images left := by
  fun_induction segments cs generalizing args with
  | case1 => exact ⟨[], args, .nil args⟩
  | case2 c cs hquote ih =>
    rw [(countFrom_readQuoted hquote cs).2.1] at h
    obtain ⟨images, left, himages⟩ := ih (fun t ht => htokens t (List.mem_cons_of_mem _ ht)) h
    exact ⟨_, left, .cons (.quoted _ args) himages⟩
  | case3 cs _ ih =>
    have hcount : Text.countFrom none ('?' :: cs) = 1 + Text.countFrom none cs := rfl
    cases args with
    | nil =>
      rw [hcount, List.length_nil] at h
      omega
    | cons v args =>
      rw [hcount, List.length_cons] at h
      obtain ⟨images, left, himages⟩ := ih (fun t ht => htokens t (List.mem_cons_of_mem _ ht)) (by omega : _ ≤ args.length)
      exact ⟨_, left, .cons (.hole v args) himages⟩
  | case4 cs _ _ ih =>
    rw [countFrom_token] at h
    obtain ⟨images, left, himages⟩ := ih (fun t ht => htokens t (List.mem_cons_of_mem _ ht)) h
    obtain ⟨s, hs⟩ := htokens _ (List.mem_cons_self ..)
    exact ⟨_, left, .cons (.token hs args) himages⟩
  | case5 c cs hquote hhole _ ih =>
    rw [(scan_plain hquote hhole).2] at h
    obtain ⟨images, left, himages⟩ := ih (fun t ht => htokens t (List.mem_cons_of_mem _ ht)) h
    exact ⟨_, left, .cons (.plain c args) himages⟩

/-! ## Texts that are templates for themselves -/

/-- The characters with every dollar sign outside of quoted sections doubled, for a scanner that starts in section `s`. -/
def escapedFrom (s : Text.Section) : List Char → List Char
  | [] => []
  | c :: cs => if s.isNone && c == '$' then '$' :: '$' :: escapedFrom (s.step c) cs else c :: escapedFrom (s.step c) cs

/-- The text with every dollar sign outside of quoted sections doubled. -/
def escaped (text : String) : String :=
  String.ofList (escapedFrom none text.toList)

/-- With its dollar signs doubled a text comes out as it is, and takes one argument for each placeholder. -/
theorem renderFrom_escapedFrom (d : Dialect) (ctx : TemplateContext) (total : Nat) (s : Text.Section) (args : List Value) (cs : List Char)
    (h : Text.countFrom s cs ≤ args.length) :
    renderFrom d ctx total s args (escapedFrom s cs) =
      .ok (⟨String.ofList cs, args.take (Text.countFrom s cs)⟩, args.drop (Text.countFrom s cs)) := by
  induction cs generalizing s args with
  | nil =>
    rw [escapedFrom, renderFrom.eq_1]
    rfl
  | cons c cs ih =>
    have hput : ∀ t rest left, t = Statement.ofText (String.singleton c) →
        put t (.ok (⟨String.ofList cs, rest⟩, left)) = .ok (⟨String.ofList (c :: cs), rest⟩, left) := by
      rintro t rest left rfl
      rw [String.ofList_cons]
      rfl
    by_cases hhole : Text.isPlaceholder s c = true
    · obtain ⟨rfl, rfl⟩ := Text.isPlaceholder_iff.mp hhole
      have hcount : Text.countFrom none ('?' :: cs) = Text.countFrom none cs + 1 := Nat.add_comm ..
      rw [hcount] at h ⊢
      cases args with
      | nil => cases h
      | cons v args =>
        have hrest := ih none args (Nat.le_of_succ_le_succ h)
        have hescaped : escapedFrom none ('?' :: cs) = '?' :: escapedFrom none cs := rfl
        rw [hescaped, renderFrom_hole d ctx total, hrest, String.ofList_cons]
        rfl
    · have hcount : Text.countFrom s (c :: cs) = Text.countFrom (s.step c) cs := by
        rw [Text.countFrom, if_neg hhole, Nat.zero_add]
      rw [hcount] at h ⊢
      have hrest := ih (s.step c) args h
      by_cases hdollar : s = none ∧ c = '$'
      · obtain ⟨rfl, rfl⟩ := hdollar
        have hescaped : escapedFrom none ('$' :: cs) = '$' :: '$' :: escapedFrom none cs := rfl
        have hread : Token.read ('$' :: escapedFrom none cs) = (.dollar, escapedFrom none cs) := rfl
        have hsubstitute : substitute? d ctx Token.dollar.chars = some (.ofText "$") := rfl
        rw [hescaped, renderFrom_token, hread]
        dsimp only
        rw [hsubstitute]
        dsimp only
        exact (congrArg (put _) hrest).trans (hput _ _ _ rfl)
      · have hescaped : escapedFrom s (c :: cs) = c :: escapedFrom (s.step c) cs := by
          rw [escapedFrom, if_neg (by simpa using hdollar)]
        have hcopied : s = none → c ≠ '?' ∧ c ≠ '$' := by
          rintro rfl
          refine ⟨?_, fun hc => hdollar ⟨rfl, hc⟩⟩
          rintro rfl
          exact hhole rfl
        rw [hescaped, renderFrom_copied d ctx total hcopied, hrest]
        exact hput _ _ _ rfl

/-- A template whose tokens all stand for something, with supplied fragments that are balanced, is rendered exactly when it has one argument
for each placeholder. What comes out has one argument for each placeholder again, so when it is sent to Postgres its holes are numbered
from one to the number of its arguments. Every text with one argument for each placeholder is rendered from itself with the dollar signs
outside of quoted sections doubled. -/
theorem render_balanced (d : Dialect) (ctx : TemplateContext) (skeleton : Statement) :
    ((∀ name s, ctx.fragment? name = some s → s.Balanced) →
      (∀ t, Segment.token t ∈ segments skeleton.sql.toList → ∃ s, t.Denotes d ctx s) →
      ((∃ s, render d skeleton ctx = .ok s) ↔ skeleton.placeholderCount = skeleton.args.length) ∧
      ∀ s, render d skeleton ctx = .ok s → s.placeholderCount = s.args.length ∧
        (Text.holes s.sql).length = s.args.length ∧
        Dialect.postgres.finish s = ⟨Text.filled (fun k => Text.dollar (k + 1)) s.sql, s.args⟩) ∧
    (skeleton.placeholderCount = skeleton.args.length →
      render d ⟨escaped skeleton.sql, skeleton.args⟩ ctx = .ok skeleton) := by
  refine ⟨fun hfragments htokens => ⟨⟨?_, fun hcount => ?_⟩, fun s hs => ?_⟩, fun hcount => ?_⟩
  · rintro ⟨s, hs⟩
    obtain ⟨images, himages, -⟩ := (render_eq_ok_iff d ctx).mp hs
    exact (himages.placeholderCount_joined hfragments).1.symm
  · obtain ⟨images, left, himages⟩ := exists_images htokens (Nat.le_of_eq hcount)
    have hleft : left = [] := by
      have hargs := (himages.placeholderCount_joined hfragments).1
      have hskeleton : Text.countFrom none skeleton.sql.toList = skeleton.args.length := hcount
      rw [← List.length_eq_zero_iff]
      omega
    subst hleft
    exact ⟨_, (render_eq_ok_iff d ctx).mpr ⟨images, himages, rfl⟩⟩
  · obtain ⟨images, himages, rfl⟩ := (render_eq_ok_iff d ctx).mp hs
    have hcount := (himages.placeholderCount_joined hfragments).2
    refine ⟨hcount, (Text.length_holes _).trans hcount, ?_⟩
    exact congrArg (fun sql => Statement.mk sql (joined images).args) (Text.numbered_eq_filled _)
  · have hskeleton : Text.countFrom none skeleton.sql.toList = skeleton.args.length := hcount
    have hrender := renderFrom_escapedFrom d ctx skeleton.args.length none skeleton.args skeleton.sql.toList
      (Nat.le_of_eq hskeleton)
    rw [hskeleton, List.take_length, List.drop_length, String.ofList_toList] at hrender
    rw [render, escaped, String.toList_ofList]
    dsimp only
    rw [hrender]
    rfl

/-- A template for a table with a question mark in its name and a supplied condition. An escaped dollar sign stands between a placeholder
and a literal, and a placeholder right behind a token. -/
theorem render_balanced_search :
    ∃ (ctx : TemplateContext) (skeleton s : Statement),
      ctx = { model := { name := "a?" }, fragments := [("Conditions", ⟨"n IN (?,?)", [.varchar "x", .varchar "y"]⟩)] } ∧
      skeleton = ⟨"?$$'$n?'$ModelName?$Conditions", [.varchar "u", .varchar "v"]⟩ ∧
      render .postgres skeleton ctx = .ok s ∧ s.args = [.varchar "u", .varchar "v", .varchar "x", .varchar "y"] ∧
      s.placeholderCount = s.args.length ∧ Dialect.postgres.finish s = ⟨"$1$'$n?'\"a?\"$2n IN ($3,$4)", s.args⟩ ∧
      render .postgres ⟨"?$$$$'$n?'$$ModelName?$$Conditions", skeleton.args⟩ ctx = .ok skeleton := by
  let fragment : Statement := ⟨"n IN (?,?)", [.varchar "x", .varchar "y"]⟩
  let ctx : TemplateContext := { model := { name := "a?" }, fragments := [("Conditions", fragment)] }
  let skeleton : Statement := ⟨"?$$'$n?'$ModelName?$Conditions", [.varchar "u", .varchar "v"]⟩
  obtain ⟨hrendered, hself⟩ := render_balanced .postgres ctx skeleton
  have hcount : skeleton.placeholderCount = skeleton.args.length := by decide +kernel
  have hfragments : ∀ name s, ctx.fragment? name = some s → s.Balanced := by
    intro name s hs
    rw [TemplateContext.fragment?, List.lookup_cons] at hs
    cases hname : name == "Conditions" with
    | false =>
      rw [hname] at hs
      cases hs
    | true =>
      rw [hname] at hs
      cases hs
      exact ⟨by decide, by decide⟩
  have hsegments : segments skeleton.sql.toList = [.hole, .token .dollar, .quoted "'$n?'".toList,
      .token (.named "ModelName".toList), .hole, .token (.named "Conditions".toList)] := by
    have hdollar : ∀ cs, Token.read ('$' :: cs) = (.dollar, cs) := fun _ => rfl
    have hquoted : readQuoted Text.apostrophe "$n?'$ModelName?$Conditions".toList =
        ("'$n?'".toList, "$ModelName?$Conditions".toList) := rfl
    have htable : Token.read "ModelName?$Conditions".toList = (.named "ModelName".toList, "?$Conditions".toList) := rfl
    have hlast : Token.read "Conditions".toList = (.named "Conditions".toList, []) := rfl
    have htext : skeleton.sql.toList = '?' :: '$' :: '$' :: Text.apostrophe :: "$n?'$ModelName?$Conditions".toList := by decide
    rw [htext, segments_hole, segments_dollar, hdollar, segments_quote (by decide), hquoted]
    have hmiddle : "$ModelName?$Conditions".toList = '$' :: "ModelName?$Conditions".toList := by decide
    have hend : "?$Conditions".toList = '?' :: '$' :: "Conditions".toList := by decide
    rw [hmiddle, segments_dollar, htable, hend, segments_hole, segments_dollar, hlast, segments]
  have htable : (Token.named "ModelName".toList).Denotes .postgres ctx (.ofText (Dialect.postgres.quoteName "a?")) := .table (by decide) rfl
  have hsupplied : (Token.named "Conditions".toList).Denotes .postgres ctx fragment := .supplied (by decide) rfl
  have htokens : ∀ t, Segment.token t ∈ segments skeleton.sql.toList → ∃ s, t.Denotes .postgres ctx s := by
    intro t ht
    rw [hsegments] at ht
    simp only [List.mem_cons, List.not_mem_nil, or_false, reduceCtorEq, false_or, Segment.token.injEq] at ht
    rcases ht with rfl | rfl | rfl
    · exact ⟨_, .dollar⟩
    · exact ⟨_, htable⟩
    · exact ⟨_, hsupplied⟩
  have hescaped : escaped skeleton.sql = "?$$$$'$n?'$$ModelName?$$Conditions" := by decide +kernel
  have himages : Images .postgres ctx (segments skeleton.sql.toList) skeleton.args [⟨"?", [.varchar "u"]⟩, .ofText "$",
      .ofText (String.ofList "'$n?'".toList), .ofText (Dialect.postgres.quoteName "a?"), ⟨"?", [.varchar "v"]⟩, fragment] [] := by
    rw [hsegments]
    exact .cons (.hole _ _) (.cons (.token .dollar _) (.cons (.quoted _ _) (.cons (.token htable _) (.cons (.hole _ _)
      (.cons (.token hsupplied _) (.nil _))))))
  have hrender := (render_eq_ok_iff .postgres ctx).mpr ⟨_, himages, rfl⟩
  obtain ⟨-, hresult⟩ := hrendered hfragments htokens
  obtain ⟨hbalanced, -, hfinish⟩ := hresult _ hrender
  rw [hescaped] at hself
  refine ⟨ctx, skeleton, _, rfl, rfl, hrender, by decide +kernel, hbalanced, ?_, hself hcount⟩
  rw [hfinish]
  decide +kernel

end Template

end RecordSql
