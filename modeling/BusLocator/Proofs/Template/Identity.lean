import BusLocator.Proofs.Template.Precedence
import BusLocator.Proofs.Template.Segments
/-!
# Who a participant is, in a text and in its environment

A process learns who it is from a text with placeholders or from its launch variables, and both
should say the same. What is put in for a placeholder is the launch variable of its name. But the
steps behind the replacement run over it like over the rest of the text: the replacements still to
come, the references, the tilde. `fill_token` says exactly what becomes of it, and that it arrives
unchanged unless one of these steps finds something in it.
-/

namespace BusLocator

namespace Template

def Placeholder.identity : List Placeholder :=
  [configFile, participantName, domain]

theorem lookup_launchVariables {p : Placeholder} (hp : p ∈ Placeholder.identity)
    (installation : Option Installation) (participant : Participant) :
    participant.launchVariables.lookup p.name = some (p.meaning installation participant) := by
  cases p with
  | configFile => rfl
  | participantName => rfl
  | domain => rfl
  | binaryDir => contradiction
  | libraryDir => contradiction

/-! ### What comes after a token -/

def Token.later (token : Token) : List Token :=
  (Token.all.dropWhile (· ≠ token)).tail

theorem Token.all_eq (token : Token) :
    Token.all = Token.all.takeWhile (· ≠ token) ++ token :: token.later := by
  have hall : ∀ token ∈ Token.all,
      Token.all = Token.all.takeWhile (· ≠ token) ++ token :: token.later := by decide
  exact hall token token.mem_all

theorem replaceTokens_eq_self {value : Placeholder → String} {order : List Token}
    {text : List Char} (h : ∀ token ∈ order, ¬ token.text <:+: text) :
    replaceTokens value order text = text := by
  induction order with
  | nil => rfl
  | cons token order ih =>
      rw [replaceTokens, List.foldl_cons, replaceAll_eq_self (h token List.mem_cons_self)]
      exact ih fun other hother => h other (List.mem_cons_of_mem token hother)

/-- A text that is one token becomes its value, and the value goes through the replacements that
are left. -/
theorem replaceTokens_token (value : Placeholder → String) (token : Token) :
    replaceTokens value Token.all token.text =
      replaceTokens value token.later (value token.placeholder).toList := by
  have hearly : ∀ other ∈ Token.all.takeWhile (· ≠ token), ¬ other.text <:+: token.text := by
    intro other hother hoccurs
    have hne : other ≠ token := by
      simpa using List.all_eq_true.1 List.all_takeWhile other hother
    exact hne (Token.eq_of_isInfix hoccurs)
  have hpassed : replaceTokens value (Token.all.takeWhile (· ≠ token)) token.text = token.text :=
    replaceTokens_eq_self hearly
  rw [replaceTokens] at hpassed ⊢
  rw [token.all_eq, List.foldl_append, hpassed, List.foldl_cons, replaceAll_self token.text_ne_nil,
    replaceTokens]

/-! ### What leaves a value alone -/

/-- A value in which the steps behind the replacement of a token find nothing: none of the tokens
that are replaced later, no reference to a variable that is set, and no tilde in front that stands
for a home directory. -/
structure Survives (host : Host) (platform : Platform) (token : Token) (value : List Char) :
    Prop where
  token : ∀ later ∈ token.later, ¬ later.text <:+: value
  reference : ∀ rest, rest <:+ value → ∀ r, reference? platform rest = some r →
    value? host.environment r.name = none
  tilde : host.home ≠ none → value ≠ ['~'] ∧ ¬ ['~', '/'] <+: value

theorem Survives.expand {host : Host} {platform : Platform} {token : Token} {value : List Char}
    (h : Survives host platform token value) (values : Placeholder → String) :
    expandHome host.home (expandReferences platform host.environment
      (replaceTokens values token.later value)) = value := by
  have hreferences : expandReferences platform host.environment value = value := by
    rw [expandReferences, expandAfter_eq_drop h.reference, List.drop_zero]
  have hhome : expandHome host.home value = value := by
    cases hhome : host.home with
    | none => rfl
    | some home =>
        obtain ⟨halone, hslash⟩ := h.tilde (by simp [hhome])
        unfold expandHome
        split
        · contradiction
        · exact absurd (List.prefix_append ['~', '/'] _) hslash
        · rfl
  rw [replaceTokens_eq_self h.token, hreferences, hhome]

theorem survives_of_isPlain {host : Host} {platform : Platform} {token : Token}
    {value : List Char} (hplain : IsPlain value) (htilde : value.head? ≠ some '~') :
    Survives host platform token value := by
  constructor
  · intro later _ hoccurs
    rcases later.text_cases with ⟨-, htext⟩ | ⟨-, body, -, htext⟩ <;> rw [htext] at hoccurs
    · exact hplain.1 (hoccurs.subset List.mem_cons_self)
    · exact hplain.2 (hoccurs.subset List.mem_cons_self)
  · rintro rest hrest r hr
    have hnone : reference? platform rest = none := reference?_of_isPlain
      ⟨fun hmem => hplain.1 (hrest.subset hmem), fun hmem => hplain.2 (hrest.subset hmem)⟩
    rw [hnone] at hr
    contradiction
  · intro _
    constructor
    · rintro rfl
      contradiction
    · rintro ⟨rest, rfl⟩
      contradiction

theorem survives_domainText {host : Host} {platform : Platform} {token : Token}
    (participant : Participant) :
    Survives host platform token participant.domainText.toList := by
  have hword := (isMixedWord_domainText participant).1
  have hsign (c : Char) (hc : c.isAlphanum = false ∧ c ≠ '_') :
      c ∉ participant.domainText.toList := by
    intro hmem
    rcases hword c hmem with h | h
    · rw [hc.1] at h
      contradiction
    · exact hc.2 h
  refine survives_of_isPlain ⟨hsign '%' (by decide), hsign '$' (by decide)⟩ fun hhead => ?_
  exact hsign '~' (by decide) (List.mem_of_head? hhead)

end Template

open Template

/-- A text that is nothing but a placeholder for the identity of a participant becomes the launch
variable of that name, after the steps behind the replacement have run over it. So it is that launch
variable, unchanged, if they find nothing in it, and for the domain they never do. The variable holds
the path of the configuration as text, the name of the participant, or its domain in decimal
digits. -/
theorem Locator.fill_token (host : Host) (locator : Locator) (participant : Participant)
    (token : Token) (hidentity : token.placeholder ∈ Placeholder.identity) :
    let value := Placeholder.meaning (locator.installation host).answer participant
    let answer := (locator.fill host participant (String.ofList token.text)).answer
    ∃ supplied, participant.launchVariables.lookup token.placeholder.name = some supplied ∧
      (token.placeholder = .configFile → supplied = Utf8.lossyString participant.configFile.bytes) ∧
      (token.placeholder = .participantName → supplied = participant.name) ∧
      (token.placeholder = .domain →
        supplied = String.ofList (Nat.toDigits 10 participant.domain.toNat)) ∧
      answer = String.ofList (expandHome host.home
        (expandReferences locator.settings.platform host.environment
          (replaceTokens value token.later supplied.toList))) ∧
      (Survives host locator.settings.platform token supplied.toList → answer = supplied) ∧
      (token.placeholder = .domain → answer = supplied) := by
  intro value answer
  have hanswer : answer = String.ofList (expandHome host.home
      (expandReferences locator.settings.platform host.environment
        (replaceTokens value token.later (value token.placeholder).toList))) := by
    simp only [answer]
    rw [answer_fill, String.toList_ofList, Template.fill, value_eq_meaning,
      substituteAll_eq_replaceTokens, replaceTokens_token]
  have hsurvives
      (h : Survives host locator.settings.platform token (value token.placeholder).toList) :
      answer = value token.placeholder := by
    rw [hanswer, h.expand, String.ofList_toList]
  refine ⟨value token.placeholder, lookup_launchVariables hidentity _ participant, ?_, ?_, ?_,
    hanswer, hsurvives, fun hdomain => hsurvives ?_⟩
  · intro hconfig
    rw [hconfig]
    rfl
  · intro hname
    rw [hname]
    rfl
  · intro hdomain
    rw [hdomain]
    rfl
  · rw [hdomain]
    exact survives_domainText participant

/-- Signs in a path do no harm when they make no reference to a variable that is set. -/
theorem Locator.fill_token_pathWithSigns :
    ((Locator.new ⟨some (.ofString "/bus"), .windows, false⟩).fill furnishedHost
        ⟨.ofString "/sim/${RUN}/50%/bus.json", "Engine1", 42⟩ "%INTEGRATIONBUS_CONFIGFILE%").answer
      = "/sim/${RUN}/50%/bus.json" := by
  obtain ⟨supplied, -, hconfig, -, -, -, hsurvives, -⟩ := Locator.fill_token furnishedHost
    (.new ⟨some (.ofString "/bus"), .windows, false⟩)
    ⟨.ofString "/sim/${RUN}/50%/bus.json", "Engine1", 42⟩ ⟨.configFile, .percent⟩ (by decide)
  have htextOfPath : Utf8.lossyString (Path.ofString "/sim/${RUN}/50%/bus.json").bytes =
      "/sim/${RUN}/50%/bus.json" := by decide +kernel
  obtain rfl : supplied = "/sim/${RUN}/50%/bus.json" := (hconfig rfl).trans htextOfPath
  have htext : String.ofList (Token.text ⟨.configFile, .percent⟩) =
      "%INTEGRATIONBUS_CONFIGFILE%" := by decide +kernel
  rw [← htext]
  refine hsurvives ⟨by decide +kernel, fun rest _ r _ => ?_, fun _ => by decide +kernel⟩
  rw [value?, furnishedHost, Environment.get?, List.lookup_nil]
  split <;> rfl

def runHost : Host :=
  { furnishedHost with environment := ⟨[("RUN", Utf8.ofString "7")]⟩ }

/-- Each of the three steps behind the replacement can change what was put in: a path with a
reference, a name that is a later placeholder, a name that is a tilde. -/
theorem Locator.fill_token_changed :
    let locator := Locator.new ⟨some (.ofString "/bus"), .posix, false⟩
    let referring : Participant := ⟨.ofString "/sim/$RUN/bus.json", "Engine1", 42⟩
    let nested : Participant := ⟨.ofString "/bus.json", "$INTEGRATIONBUS_DOMAINID", 42⟩
    let tilde : Participant := ⟨.ofString "/bus.json", "~", 42⟩
    some (locator.fill runHost referring "$INTEGRATIONBUS_CONFIGFILE").answer ≠
        referring.launchVariables.lookup "INTEGRATIONBUS_CONFIGFILE" ∧
      some (locator.fill runHost nested "$INTEGRATIONBUS_PARTICIPANTNAME").answer ≠
        nested.launchVariables.lookup "INTEGRATIONBUS_PARTICIPANTNAME" ∧
      some (locator.fill runHost tilde "$INTEGRATIONBUS_PARTICIPANTNAME").answer ≠
        tilde.launchVariables.lookup "INTEGRATIONBUS_PARTICIPANTNAME" := by
  decide +kernel

end BusLocator
