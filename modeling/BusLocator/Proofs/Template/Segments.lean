import BusLocator.Proofs.Locator.Answer
import BusLocator.Proofs.Template.Cleared
import BusLocator.Proofs.Text.Replacement
/-!
# Templates as segments

A template is put together from literal text and placeholders, each placeholder written in one of
three ways. Filling it in should replace every placeholder by what it stands for, all at once. The
code replaces one way of writing one placeholder after the other in the whole text, so it has to be
shown that no replacement takes anything but its own segments.

What the placeholders stand for is written down once more in `Placeholder.meaning`, apart from the
values that are put in.

The invariant is that the text stays a list of segments: a replacement turns some placeholders into
literal text and leaves the rest alone (`replaceAll_written`). Dollar signs only open placeholders,
so nothing can go wrong with these. Percent signs also close them, and between two placeholders a
name could stand by chance; that is what the condition on the filled text excludes.
-/

namespace BusLocator.Template

/-- A text without the signs that open a reference. -/
def IsPlain (text : List Char) : Prop :=
  '%' ∉ text ∧ '$' ∉ text

instance (text : List Char) : Decidable (IsPlain text) :=
  inferInstanceAs (Decidable (_ ∧ _))

inductive Spelling where
  | percent
  | braced
  | bare
  deriving DecidableEq, Repr

namespace Spelling

def all : List Spelling :=
  [percent, braced, bare]

def write (name : List Char) : Spelling → List Char
  | .percent => '%' :: name ++ ['%']
  | .braced => '$' :: '{' :: name ++ ['}']
  | .bare => '$' :: name

theorem map_write_all (name : List Char) : all.map (write name) = spellings name :=
  rfl

end Spelling

structure Token where
  placeholder : Placeholder
  spelling : Spelling
  deriving DecidableEq, Repr

namespace Token

def all : List Token :=
  Placeholder.all.flatMap fun p => Spelling.all.map fun spelling => ⟨p, spelling⟩

def text (token : Token) : List Char :=
  token.spelling.write token.placeholder.name.toList

theorem mem_all (token : Token) : token ∈ all := by
  rcases token with ⟨p, spelling⟩
  cases p <;> cases spelling <;> decide

/-- No token occurs in another. -/
theorem eq_of_isInfix {token other : Token} (h : token.text <:+: other.text) : token = other := by
  have hall : all.all (fun x => all.all fun y => !decide (x.text <:+: y.text) || x = y) = true := by
    decide +kernel
  have hother := List.all_eq_true.1 (List.all_eq_true.1 hall token token.mem_all) other other.mem_all
  simpa [h] using hother

end Token

/-- What the replacements do to a text, for tokens in any order. -/
def replaceTokens (value : Placeholder → String) (order : List Token) (text : List Char) :
    List Char :=
  order.foldl (fun text token => replaceAll token.text (value token.placeholder).toList text) text

theorem substituteAll_eq_replaceTokens (value : Placeholder → String) (text : List Char) :
    substituteAll value text = replaceTokens value Token.all text := by
  rw [substituteAll_eq, replaceTokens, replacements, Token.all]
  simp only [← Spelling.map_write_all, List.foldl_flatMap, List.foldl_map]
  rfl

inductive Segment where
  | literal (text : List Char) (plain : IsPlain text)
  | placeholder (token : Token)

def written : List Segment → List Char
  | [] => []
  | .literal text _ :: rest => text ++ written rest
  | .placeholder token :: rest => token.text ++ written rest

/-- The text of a template with what each placeholder stands for in its place. -/
def filled (value : Placeholder → String) : List Segment → List Char
  | [] => []
  | .literal text _ :: rest => text ++ filled value rest
  | .placeholder token :: rest => (value token.placeholder).toList ++ filled value rest

/-! ### Signs in tokens -/

theorem isPlain_name (p : Placeholder) : IsPlain p.name.toList := by
  cases p <;> decide +kernel

/-- A token is closed by a second percent sign, or it has a dollar sign in front and nothing else
that counts. -/
theorem Token.text_cases (token : Token) :
    (token.spelling = .percent ∧ token.text = '%' :: token.placeholder.name.toList ++ ['%']) ∨
      (token.spelling ≠ .percent ∧ ∃ body, IsPlain body ∧ token.text = '$' :: body) := by
  rcases token with ⟨p, spelling⟩
  obtain ⟨hpercent, hdollar⟩ := isPlain_name p
  cases spelling with
  | percent => exact .inl ⟨rfl, rfl⟩
  | braced =>
      refine .inr ⟨Spelling.noConfusion, '{' :: p.name.toList ++ ['}'], ⟨?_, ?_⟩, rfl⟩
      · simp [hpercent]
      · simp [hdollar]
  | bare => exact .inr ⟨Spelling.noConfusion, p.name.toList, ⟨hpercent, hdollar⟩, rfl⟩

theorem Token.text_ne_nil (token : Token) : token.text ≠ [] := by
  rcases token.text_cases with ⟨-, htext⟩ | ⟨-, body, -, htext⟩ <;> simp [htext]

theorem Token.not_isPrefixOf {token other : Token} (hne : other ≠ token) (rest : List Char) :
    token.text.isPrefixOf (other.text ++ rest) = false := by
  rw [Bool.eq_false_iff, ne_eq, List.isPrefixOf_iff_prefix]
  intro hbegins
  rcases List.prefix_or_prefix_of_prefix hbegins (List.prefix_append other.text rest) with h | h
  · exact hne (Token.eq_of_isInfix h.isInfix).symm
  · exact hne (Token.eq_of_isInfix h.isInfix)

theorem replaceAll_plain_append (token : Token) {text : List Char} (hplain : IsPlain text)
    (value rest : List Char) :
    replaceAll token.text value (text ++ rest) = text ++ replaceAll token.text value rest := by
  rcases token.text_cases with ⟨-, htext⟩ | ⟨-, body, -, htext⟩ <;> rw [htext]
  · exact replaceAll_append_of_notMem hplain.1 rest
  · exact replaceAll_append_of_notMem hplain.2 rest

/-- A replacement passes over the other tokens, as long as it does not begin with the percent sign
that closes one. -/
theorem replaceAll_token_append {token other : Token} (hne : other ≠ token) (value : List Char)
    {rest : List Char} (hclosing : token.spelling = .percent → other.spelling = .percent →
      token.text.isPrefixOf ('%' :: rest) = false) :
    replaceAll token.text value (other.text ++ rest) =
      other.text ++ replaceAll token.text value rest := by
  have hhead := Token.not_isPrefixOf hne rest
  rcases token.text_cases with ⟨htoken, htext⟩ | ⟨-, pattern, ⟨hpercent, -⟩, htext⟩ <;>
    rcases other.text_cases with ⟨hother, hothertext⟩ | ⟨hother, body, hbody, hothertext⟩
  · have hname := (isPlain_name other.placeholder).1
    have hclosed := hclosing htoken hother
    have hsplit (later : List Char) :
        other.text ++ later = '%' :: (other.placeholder.name.toList ++ '%' :: later) := by
      simp [hothertext]
    rw [hsplit] at hhead
    rw [hsplit, hsplit, replaceAll_of_not_isPrefixOf hhead]
    rw [htext] at hclosed ⊢
    rw [List.cons_append] at hclosed ⊢
    rw [replaceAll_append_of_notMem hname, replaceAll_of_not_isPrefixOf hclosed]
  · rw [htext, hothertext]
    refine replaceAll_append_of_notMem ?_ rest
    simp [hbody.1]
  · rw [htext, hothertext]
    refine replaceAll_append_of_notMem ?_ rest
    simp [(isPlain_name other.placeholder).2]
  · rw [hothertext, List.cons_append] at hhead
    rw [hothertext, List.cons_append, List.cons_append, replaceAll_of_not_isPrefixOf hhead, htext,
      replaceAll_append_of_notMem hbody.2]

/-- A replacement as a change of segments. -/
def Segment.replace {value : Placeholder → String} (hvalue : ∀ p, IsPlain (value p).toList)
    (token : Token) : Segment → Segment
  | .literal text plain => .literal text plain
  | .placeholder other =>
    if other = token then .literal (value token.placeholder).toList (hvalue token.placeholder)
    else .placeholder other

section Replacement

variable {value : Placeholder → String} (hvalue : ∀ p, IsPlain (value p).toList) (token : Token)

theorem filled_map_replace (segments : List Segment) :
    filled value (segments.map (Segment.replace hvalue token)) = filled value segments := by
  induction segments with
  | nil => rfl
  | cons segment rest ih =>
      cases segment with
      | literal text plain => simp [filled, Segment.replace, ih]
      | placeholder other =>
          by_cases hother : other = token <;> simp [filled, Segment.replace, hother, ih]

theorem placeholder_mem_map_replace {other : Token} {segments : List Segment} :
    .placeholder other ∈ segments.map (Segment.replace hvalue token) ↔
      .placeholder other ∈ segments ∧ other ≠ token := by
  rw [List.mem_map]
  constructor
  · rintro ⟨segment, hmem, hsegment⟩
    cases segment with
    | literal text plain => cases hsegment
    | placeholder found =>
        by_cases hfound : found = token
        · simp [Segment.replace, hfound] at hsegment
        · rw [Segment.replace, if_neg hfound, Segment.placeholder.injEq] at hsegment
          subst hsegment
          exact ⟨hmem, hfound⟩
  · rintro ⟨hmem, hne⟩
    exact ⟨_, hmem, if_neg hne⟩

/-- What stands in a text before a percent sign and has no sign in it stands in front of the filled
text as well. -/
theorem prefix_filled_of_written {name later : List Char} (hname : IsPlain name)
    {segments : List Segment} (h : name ++ '%' :: later = written segments) :
    name <+: filled value segments := by
  induction segments generalizing name with
  | nil => simp [written] at h
  | cons segment rest ih =>
      cases segment with
      | literal text plain =>
          rw [written] at h
          rcases List.append_eq_append_iff.1 h with ⟨more, rfl, hmore⟩ | ⟨more, rfl, hrest⟩
          · -- The percent sign would stand in the literal text.
            cases more with
            | nil =>
                rw [filled, List.append_nil]
                exact List.prefix_append name _
            | cons c more =>
                obtain rfl : '%' = c := (List.cons.inj hmore).1
                exact absurd (List.mem_append_right name List.mem_cons_self) plain.1
          · rw [filled, List.prefix_append_right_inj]
            refine ih ⟨fun hmem => hname.1 ?_, fun hmem => hname.2 ?_⟩ hrest.symm
            all_goals exact List.mem_append_right text hmem
      | placeholder token =>
          cases name with
          | nil => exact List.nil_prefix
          | cons c name =>
              -- The text would begin with a sign.
              rw [written, List.cons_append] at h
              rcases token.text_cases with ⟨-, htext⟩ | ⟨-, body, -, htext⟩
              · rw [htext] at h
                obtain rfl : c = '%' := (List.cons.inj h).1
                exact absurd List.mem_cons_self hname.1
              · rw [htext] at h
                obtain rfl : c = '$' := (List.cons.inj h).1
                exact absurd List.mem_cons_self hname.2

/-- Templates in which a percent sign cannot be taken for the beginning of a token when it is the
end of one: there are no percent signs at all, or no name stands in the filled text. -/
def Unambiguous (value : Placeholder → String) (segments : List Segment) : Prop :=
  (∀ token, .placeholder token ∈ segments → token.spelling ≠ .percent) ∨
    ∀ p : Placeholder, ¬ p.name.toList <:+: filled value segments

theorem Unambiguous.replace {segments : List Segment} (h : Unambiguous value segments) :
    Unambiguous value (segments.map (Segment.replace hvalue token)) := by
  rcases h with hpercent | hname
  · left
    intro other hmem
    exact hpercent other ((placeholder_mem_map_replace hvalue token).1 hmem).1
  · right
    rw [filled_map_replace]
    exact hname

theorem Unambiguous.tail {segment : Segment} {rest : List Segment}
    (h : Unambiguous value (segment :: rest)) : Unambiguous value rest := by
  rcases h with hpercent | hname
  · exact .inl fun token hmem => hpercent token (List.mem_cons_of_mem segment hmem)
  · refine .inr fun p hoccurs => hname p (hoccurs.trans ?_)
    cases segment <;> exact (List.suffix_append _ _).isInfix

/-- Otherwise a whole name would stand between the percent sign that closes the one token and the
next sign. -/
theorem Unambiguous.not_isPrefixOf {other : Token} {rest : List Segment}
    (h : Unambiguous value (.placeholder other :: rest)) (htoken : token.spelling = .percent)
    (hpercent : other.spelling = .percent) :
    token.text.isPrefixOf ('%' :: written rest) = false := by
  rw [Bool.eq_false_iff, ne_eq, List.isPrefixOf_iff_prefix]
  rintro ⟨later, hlater⟩
  rcases token.text_cases with ⟨-, htext⟩ | ⟨hnot, -⟩
  · rw [htext, List.cons_append, List.cons_append, List.append_assoc,
      List.singleton_append] at hlater
    rcases h with hnone | hname
    · exact hnone other List.mem_cons_self hpercent
    · have hbegins : token.placeholder.name.toList <+: filled value rest :=
        prefix_filled_of_written (isPlain_name token.placeholder) (List.cons.inj hlater).2
      exact hname token.placeholder (hbegins.isInfix.trans (List.suffix_append _ _).isInfix)
  · exact hnot htoken

/-- A replacement takes its own segments and no others. -/
theorem replaceAll_written {segments : List Segment} (h : Unambiguous value segments) :
    replaceAll token.text (value token.placeholder).toList (written segments) =
      written (segments.map (Segment.replace hvalue token)) := by
  induction segments with
  | nil => rfl
  | cons segment rest ih =>
      cases segment with
      | literal text plain =>
          rw [written, replaceAll_plain_append token plain, ih h.tail]
          rfl
      | placeholder other =>
          rw [written, List.map_cons, Segment.replace]
          by_cases hother : other = token
          · subst hother
            rw [if_pos rfl, replaceAll_pattern_append other.text_ne_nil, ih h.tail]
            rfl
          · rw [if_neg hother, replaceAll_token_append hother _ (h.not_isPrefixOf token), ih h.tail]
            rfl

theorem written_eq_filled {segments : List Segment}
    (h : ∀ token, .placeholder token ∉ segments) : written segments = filled value segments := by
  induction segments with
  | nil => rfl
  | cons segment rest ih =>
      have hrest : written rest = filled value rest :=
        ih fun token hmem => h token (List.mem_cons_of_mem segment hmem)
      cases segment with
      | literal text plain => rw [written, filled, hrest]
      | placeholder token => exact absurd List.mem_cons_self (h token)

include hvalue in
theorem replaceTokens_written {order : List Token} {segments : List Segment}
    (horder : ∀ token, .placeholder token ∈ segments → token ∈ order)
    (h : Unambiguous value segments) :
    replaceTokens value order (written segments) = filled value segments := by
  induction order generalizing segments with
  | nil =>
      refine written_eq_filled fun token hmem => ?_
      exact absurd (horder token hmem) List.not_mem_nil
  | cons token order ih =>
      have hnext : ∀ other,
          .placeholder other ∈ segments.map (Segment.replace hvalue token) → other ∈ order := by
        intro other hmem
        obtain ⟨hmem, hne⟩ := (placeholder_mem_map_replace hvalue token).1 hmem
        exact (List.mem_cons.1 (horder other hmem)).resolve_left hne
      have hstep := ih hnext (h.replace hvalue token)
      rw [filled_map_replace] at hstep
      rw [replaceTokens, List.foldl_cons, replaceAll_written hvalue token h]
      exact hstep

include hvalue in
theorem isPlain_filled (segments : List Segment) : IsPlain (filled value segments) := by
  induction segments with
  | nil => exact ⟨List.not_mem_nil, List.not_mem_nil⟩
  | cons segment rest ih =>
      cases segment with
      | literal text plain => simp [filled, IsPlain, plain.1, plain.2, ih.1, ih.2]
      | placeholder token =>
          have hplain := hvalue token.placeholder
          simp [filled, IsPlain, hplain.1, hplain.2, ih.1, ih.2]

end Replacement

/-! ### What placeholders stand for -/

/-- The text of a directory, with a separator behind it unless it ends in one. -/
def directoryText (p : Path) : String :=
  let text := Utf8.lossyString p.bytes
  if ['/'] <:+ text.toList then text else text ++ "/"

/-- The two directories, or nothing if there is no installation; then the path of the configuration,
the name of the participant, and its domain in decimal digits. -/
def Placeholder.meaning (installation : Option Installation) (participant : Participant) :
    Placeholder → String
  | .binaryDir => match installation with
    | none => ""
    | some found => directoryText found.binaryDir
  | .libraryDir => match installation with
    | none => ""
    | some found => directoryText found.libraryDir
  | .configFile => Utf8.lossyString participant.configFile.bytes
  | .participantName => participant.name
  | .domain => String.ofList (Nat.toDigits 10 participant.domain.toNat)

theorem displayWithSlash_eq (p : Path) : p.displayWithSlash = directoryText p := by
  have hends : p.display.toList.getLast? = some '/' ↔ ['/'] <:+ p.display.toList := by
    rw [List.getLast?_eq_some_iff]
    exact exists_congr fun before => eq_comm
  rw [Path.displayWithSlash, directoryText]
  by_cases h : ['/'] <:+ p.display.toList
  · rw [if_pos (hends.2 h)]
    exact (if_pos h).symm
  · rw [if_neg (mt hends.1 h)]
    exact (if_neg h).symm

theorem value_eq_meaning (installation : Option Installation) (participant : Participant) :
    Placeholder.value installation participant = Placeholder.meaning installation participant := by
  funext p
  cases p with
  | binaryDir =>
      cases installation with
      | none => rfl
      | some found => exact displayWithSlash_eq found.binaryDir
  | libraryDir =>
      cases installation with
      | none => rfl
      | some found => exact displayWithSlash_eq found.libraryDir
  | configFile => rfl
  | participantName => rfl
  | domain => rfl

/-! ### Filling in -/

theorem reference?_of_isPlain {platform : Platform} {text : List Char} (h : IsPlain text) :
    reference? platform text = none := by
  rw [Option.eq_none_iff_forall_ne_some]
  intro r hr
  rcases eq_of_reference? hr with ⟨rest, rfl⟩ | ⟨rest, rfl⟩ | ⟨rest, rfl, -⟩
  · exact h.1 (by simp)
  · exact h.2 (by simp)
  · exact h.2 (by simp)

theorem expandReferences_of_isPlain {platform : Platform} {env : Environment} {text : List Char}
    (h : IsPlain text) : expandReferences platform env text = text := by
  rw [expandReferences]
  induction text with
  | nil => rfl
  | cons c rest ih =>
      have hrest : IsPlain rest :=
        ⟨fun hmem => h.1 (List.mem_cons_of_mem c hmem), fun hmem => h.2 (List.mem_cons_of_mem c hmem)⟩
      rw [expandAfter, reference?_of_isPlain h]
      exact congrArg (c :: ·) (ih hrest)

/-- Nothing is left to be expanded in a filled template but a tilde in front. -/
theorem expand_replaceTokens_written {host : Host} {platform : Platform}
    {value : Placeholder → String} (hvalue : ∀ p, IsPlain (value p).toList)
    {segments : List Segment} (h : Unambiguous value segments) {order : List Token}
    (horder : ∀ token, token ∈ order) :
    expandHome host.home
        (expandReferences platform host.environment (replaceTokens value order (written segments))) =
      expandHome host.home (filled value segments) := by
  rw [replaceTokens_written hvalue (fun token _ => horder token) h,
    expandReferences_of_isPlain (isPlain_filled hvalue segments)]

end BusLocator.Template

namespace BusLocator

open Template

/-- A template is filled in as if all its placeholders were replaced at once by what they stand for,
whatever the order in which that is done. -/
theorem Locator.fill_written (host : Host) (locator : Locator) (participant : Participant)
    (segments : List Segment)
    (hvalue : ∀ p : Placeholder,
      IsPlain (p.meaning (locator.installation host).answer participant).toList)
    (hsegments : Unambiguous (Placeholder.meaning (locator.installation host).answer participant)
      segments) :
    let value := Placeholder.meaning (locator.installation host).answer participant
    let expected := expandHome host.home (filled value segments)
    (locator.fill host participant (String.ofList (written segments))).answer =
        String.ofList expected ∧
      ∀ order : List Token, (∀ token, token ∈ order) →
        expandHome host.home (expandReferences locator.settings.platform host.environment
          (replaceTokens value order (written segments))) = expected := by
  intro value expected
  have hexpand (order : List Token) (horder : ∀ token, token ∈ order) :
      expandHome host.home (expandReferences locator.settings.platform host.environment
        (replaceTokens value order (written segments))) = expected :=
    expand_replaceTokens_written hvalue hsegments horder
  refine ⟨?_, hexpand⟩
  rw [answer_fill, String.toList_ofList, Template.fill, value_eq_meaning,
    substituteAll_eq_replaceTokens, hexpand Token.all Token.mem_all]

/-- A host with an installation beside the anchor `/bus`, and with a home directory. -/
def furnishedHost : Host where
  environment := ⟨[]⟩
  home := some (.ofString "/home/ib/")
  workingDir := none
  programDir := none
  files := ⟨fun p =>
    if p = .ofString "/bus" ∨ p = .ofString "/lib" then .directory
    else if p = .ofString "/lib/libIntegrationBus.so" then .file []
    else .absent .notFound⟩

/-- All five placeholders, in tokens that touch each other and the text around them. -/
theorem Locator.fill_written_touchingTokens :
    let locator := Locator.new ⟨some (.ofString "/bus"), .posix, false⟩
    let participant : Participant := ⟨.ofString "/sim/bus.json", "Engine1", 42⟩
    (locator.fill furnishedHost participant
        ("~/$INTEGRATIONBUS_DOMAINIDx%INTEGRATIONBUS_BINPATH%%INTEGRATIONBUS_PARTICIPANTNAME%"
          ++ "${INTEGRATIONBUS_LIBPATH}$INTEGRATIONBUS_CONFIGFILE")).answer
      = "/home/ib/42x/bus/Engine1/lib//sim/bus.json" := by
  intro locator participant
  let segments : List Segment :=
    [.literal ['~', '/'] (by decide), .placeholder ⟨.domain, .bare⟩, .literal ['x'] (by decide),
      .placeholder ⟨.binaryDir, .percent⟩, .placeholder ⟨.participantName, .percent⟩,
      .placeholder ⟨.libraryDir, .braced⟩, .placeholder ⟨.configFile, .bare⟩]
  have hinstalled : (locator.installation furnishedHost).answer =
      some ⟨.ofString "/bus", .ofString "/lib"⟩ := by
    simp only [locator]
    rfl
  have hvalue (p : Placeholder) :
      IsPlain (p.meaning (locator.installation furnishedHost).answer participant).toList := by
    rw [hinstalled]
    cases p <;> decide +kernel
  have hsegments : Unambiguous
      (Placeholder.meaning (locator.installation furnishedHost).answer participant) segments := by
    rw [hinstalled]
    right
    intro p
    cases p <;> decide +kernel
  have hfilled := (fill_written furnishedHost locator participant segments hvalue hsegments).1
  rw [hinstalled] at hfilled
  have htext : String.ofList (written segments) =
      "~/$INTEGRATIONBUS_DOMAINIDx%INTEGRATIONBUS_BINPATH%%INTEGRATIONBUS_PARTICIPANTNAME%"
        ++ "${INTEGRATIONBUS_LIBPATH}$INTEGRATIONBUS_CONFIGFILE" := by decide +kernel
  rw [← htext, hfilled]
  decide +kernel

end BusLocator
