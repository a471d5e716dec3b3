import BusLocator.FileTree
import BusLocator.Program
import BusLocator.Proofs.CommandLine.Levels
import BusLocator.Proofs.Json.Numbers
import BusLocator.Proofs.Network.RoundTrip
import BusLocator.Proofs.Text.Encoding
/-!
# The command that shows a node

The command reads a file, decodes the nodes in it and looks one up, and each of the three can end
the run. Whatever else is around, the run is decided by the name and by what is found at the path of
the file (`run_of_asksForNode`). What a found node is printed as is read back as that node.
-/

namespace BusLocator

namespace NetworkNode

variable {nodes : List NetworkNode} {node : NetworkNode} {name : String}

/-! ### Looking up a node -/

theorem find_of_find?_eq_some (hname : name ≠ "")
    (hfirst : nodes.find? (·.name = name) = some node) (verbose : Bool) :
    find nodes name verbose =
      (some node, if 2 ≤ nodes.countP (·.name = name) then
        [.warning ("NetworkNode '" ++ name ++ "' is not unique, taking first.")] else []) := by
  rw [List.countP_eq_length_filter, find, if_neg hname]
  rw [← List.head?_filter] at hfirst
  obtain ⟨others, hothers⟩ := List.head?_eq_some_iff.1 hfirst
  rw [hothers]
  cases others with
  | nil => rfl
  | cons other others =>
      have hmany : 2 ≤ (node :: other :: others).length := Nat.le_add_left 2 others.length
      rw [if_pos hmany]

theorem find_of_forall_ne (hname : name ≠ "") (hnone : ∀ node ∈ nodes, node.name ≠ name)
    (verbose : Bool) :
    find nodes name verbose =
      (none, if verbose then [.info ("NetworkNode '" ++ name ++ "' not found.")] else []) := by
  have hfilter : nodes.filter (·.name = name) = [] := by simpa using hnone
  rw [find, if_neg hname, hfilter]

/-! ### Printing a node -/

theorem isWhole_of_parseAll {text : String} (h : parseAll text = .ok nodes) (hnode : node ∈ nodes)
    (hwhole : ∀ setting ∈ node.settings, ∀ n, Json.Mentions n setting.2 → ∃ z, n = .integer z) :
    node.IsRegular Json.Number.IsWhole (Json.depthLimit - 2) := by
  have hfits := isRegular_of_parseAll_of_number Json.Reader.fits_of_number h hnode
  exact ⟨hfits.ascending, hfits.key_ne, fun setting hsetting =>
    (hfits.regular setting hsetting).isWhole_of_fits (hwhole setting hsetting)⟩

theorem exists_parse_pretty {depth : Nat} (h : node.IsRegular Json.Number.IsWhole depth)
    (hdepth : depth + 1 ≤ Json.depthLimit) :
    ∃ json, Json.parse node.toJson.pretty = .ok json ∧ ofJson json = .ok node := by
  have hregular : node.IsRegular Json.Number.IsWhole (Json.depthLimit - 1) :=
    h.mono (Nat.le_sub_one_of_lt hdepth)
  refine ⟨node.gathered, ?_, ofJson_gathered h⟩
  apply Json.parse_of_spells
  rw [Json.pretty, String.toList_ofList]
  exact Json.spells_writeIndented_object 0 fun field hfield =>
    Json.spells_writeIndented (hregular.regular_of_mem_fields hfield) _

end NetworkNode

namespace Program

open CommandLine NetworkNode

/-- The command line asks for the node with a name in a file. -/
def AsksForNode (start : Start) (name : String) (file : Path) : Prop :=
  ∃ invocation, invocation.action = .node name file ∧
    parse (EnvironmentFile.load start.files start.workingDir start.environment)
      start.arguments = .ok invocation

variable {start : Start} {host : Host} {name text : String} {file : Path}
  {nodes : List NetworkNode}

/-! ### The command line -/

/-- Every name and every file can be asked for, unless the environment sets the anchor directory to
nothing. -/
theorem asksForNode_of_arguments {word : Bytes} (hname : Utf8.string? word = some name)
    (hfile : file.bytes ≠ [])
    (hset : ¬HasEmptyAnchor
      (EnvironmentFile.load start.files start.workingDir start.environment))
    (harguments : start.arguments = [Utf8.ofString "node", Utf8.ofString "--file=" ++ file.bytes,
      Utf8.ofString "--", word]) : AsksForNode start name file := by
  obtain ⟨_ | ⟨b, bytes⟩⟩ := file
  · exact absurd rfl hfile
  rw [AsksForNode, harguments]
  generalize EnvironmentFile.load start.files start.workingDir start.environment = env at hset ⊢
  let given : Given := { file := some ⟨b :: bytes⟩, name := some name }
  let pending : Progress := ⟨{ file := some ⟨b :: bytes⟩ }, some (.name, some word), []⟩
  have htext : textValue word = .ok name := by rw [textValue, hname]
  have hsettle : pending.settle = .ok ⟨given, none, []⟩ := by
    simp [pending, given, Progress.settle, Given.fill, fillOnce, htext, bind, Except.bind,
      Except.mapError, Except.map]
  have hreads : Reads [Utf8.ofString "node", Utf8.ofString "--file=" ++ b :: bytes,
      Utf8.ofString "--", word] .node {} given :=
    ⟨rfl, rfl, rfl, ⟨⟨{ operands := [] }, rfl, rfl⟩, rfl⟩, ⟨⟨_, hsettle, rfl⟩, rfl⟩⟩
  refine ⟨⟨false, anchorDir env {} given, .node name ⟨b :: bytes⟩⟩, rfl, ?_⟩
  rw [parse_of_reads hreads rfl, if_neg fun h => hset h.1]
  rfl

/-! ### Reading and looking up -/

def lookup (nodes : List NetworkNode) (name : String) : Finding :=
  match find nodes name true with
  | (some node, diagnostics) => ⟨said diagnostics ++ [node.toJson.pretty], true⟩
  | (none, diagnostics) => ⟨said diagnostics, false⟩

theorem node_of_unreadable {cause : ReadFailure} (hread : host.files.readText file = .error cause)
    (name : String) : Program.node host name file = .error (.unreadable file cause) := by
  rw [Program.node, hread]
  rfl

theorem node_of_invalid {cause : NetworkError} (hread : host.files.readText file = .ok text)
    (hnodes : parseAll text = .error cause) (name : String) :
    Program.node host name file = .error (.noNodes file cause) := by
  rw [Program.node, hread]
  simp only [Except.mapError, bind, Except.bind, hnodes]

theorem node_of_parseAll (hread : host.files.readText file = .ok text)
    (hnodes : parseAll text = .ok nodes) (name : String) :
    Program.node host name file = .ok (lookup nodes name) := by
  rw [Program.node, hread, lookup]
  simp only [Except.mapError, bind, Except.bind, hnodes]
  rcases find nodes name true with ⟨_ | node, diagnostics⟩ <;> rfl

/-- Nothing but the name and the file counts. -/
theorem run_of_asksForNode (h : AsksForNode start name file) :
    ∃ host : Host, host.files = start.files ∧
      run start = finished (Program.node host name file) := by
  obtain ⟨invocation, haction, hparse⟩ := h
  let env := EnvironmentFile.load start.files start.workingDir start.environment
  refine ⟨({ start with environment := env } : Start).host, rfl, ?_⟩
  rw [run, hparse]
  simp only [carryOut, haction]
  rfl

/-! ### The end of a run -/

theorem unlines_nil : unlines [] = "" :=
  rfl

theorem unlines_cons (line : String) (lines : List String) :
    unlines (line :: lines) = line ++ "\n" ++ unlines lines := by
  rw [unlines, List.map_cons, String.join_cons, unlines]

theorem finished_lookup_of_first {node : NetworkNode} (hname : name ≠ "")
    (hfirst : nodes.find? (·.name = name) = some node) :
    finished (.ok (lookup nodes name)) =
      ⟨0, (if 2 ≤ nodes.countP (·.name = name) then
        "Warning: NetworkNode '" ++ name ++ "' is not unique, taking first.\n" else "") ++
          node.toJson.pretty ++ "\n", ""⟩ := by
  rw [lookup, find_of_find?_eq_some hname hfirst]
  by_cases hmany : 2 ≤ nodes.countP (·.name = name)
  · have hwarning : "Warning: NetworkNode '" = "Warning: " ++ "NetworkNode '" := rfl
    have hending : "' is not unique, taking first.\n" =
      "' is not unique, taking first." ++ "\n" := rfl
    rw [if_pos hmany, if_pos hmany, hwarning, hending]
    simp only [finished, said, Diagnostic.warning, Diagnostic.line, List.map_cons, List.map_nil,
      List.cons_append, List.nil_append, unlines_cons, unlines_nil, String.append_assoc,
      String.append_empty, if_true]
  · rw [if_neg hmany, if_neg hmany]
    simp only [finished, said, List.map_nil, List.nil_append, unlines_cons, unlines_nil,
      String.append_empty, String.empty_append, if_true]

theorem finished_lookup_of_forall_ne (hname : name ≠ "")
    (hnone : ∀ node ∈ nodes, node.name ≠ name) :
    finished (.ok (lookup nodes name)) =
      ⟨1, "NetworkNode '" ++ name ++ "' not found.\n", ""⟩ := by
  rw [lookup, find_of_forall_ne hname hnone]
  have hending : "' not found.\n" = "' not found." ++ "\n" := rfl
  rw [hending]
  simp only [finished, said, Diagnostic.info, Diagnostic.line, List.map_cons, List.map_nil,
    unlines_cons, unlines_nil, String.append_assoc, String.append_empty, if_true]
  rfl

theorem finished_lookup_empty (nodes : List NetworkNode) :
    finished (.ok (lookup nodes "")) = ⟨1, "", ""⟩ :=
  rfl

theorem exitCode_lookup_eq_zero_iff :
    (finished (.ok (lookup nodes name))).exitCode = 0 ↔
      name ≠ "" ∧ ∃ node ∈ nodes, node.name = name := by
  by_cases hname : name = ""
  · subst hname
    rw [finished_lookup_empty]
    simp
  cases hfirst : nodes.find? (·.name = name) with
  | none =>
      have hnone : ∀ node ∈ nodes, node.name ≠ name := by simpa using hfirst
      rw [finished_lookup_of_forall_ne hname hnone]
      simpa using fun _ => hnone
  | some node =>
      have hnode : node.name = name := by simpa using List.find?_some hfirst
      rw [finished_lookup_of_first hname hfirst]
      exact iff_of_true rfl ⟨hname, node, List.mem_of_find?_eq_some hfirst, hnode⟩

theorem exitCode_node_eq_zero_iff :
    (finished (Program.node host name file)).exitCode = 0 ↔
      ∃ text nodes, host.files.readText file = .ok text ∧ parseAll text = .ok nodes ∧
        name ≠ "" ∧ ∃ node ∈ nodes, node.name = name := by
  cases hread : host.files.readText file with
  | error cause =>
      rw [node_of_unreadable hread]
      simp [finished]
  | ok text =>
      cases hnodes : parseAll text with
      | error cause =>
          rw [node_of_invalid hread hnodes]
          simp [finished, hnodes]
      | ok nodes =>
          rw [node_of_parseAll hread hnodes, exitCode_lookup_eq_zero_iff]
          simp [hnodes]

/-- How a run ends that asks for a node. It succeeds exactly if the file holds text that spells
nodes, one of which has the name, which is not empty. Then the output is the first of these nodes,
behind a warning if there are more of them, and a node without fractions is read back from it. A
name that no node has is reported, but the empty name is not, even if a node has it. If the file
cannot be read or spells no nodes, there is no output, and the run ends with a message. -/
theorem run_shows_first_named (h : AsksForNode start name file) :
    ((run start).exitCode = 0 ↔
        ∃ content text nodes, start.files.entry file = .file content ∧
          Utf8.string? content = some text ∧ parseAll text = .ok nodes ∧ name ≠ "" ∧
          ∃ node ∈ nodes, node.name = name) ∧
      (∀ text nodes, start.files.readText file = .ok text → parseAll text = .ok nodes →
        (name ≠ "" → ∀ node, nodes.find? (·.name = name) = some node →
          ((run start).exitCode = 0 ∧
            (run start).output = (if 2 ≤ nodes.countP (·.name = name) then
              "Warning: NetworkNode '" ++ name ++ "' is not unique, taking first.\n" else "") ++
                node.toJson.pretty ++ "\n") ∧
          ((∀ setting ∈ node.settings, ∀ n, Json.Mentions n setting.2 → ∃ z, n = .integer z) →
            ∃ json, Json.parse node.toJson.pretty = .ok json ∧ ofJson json = .ok node)) ∧
        (name ≠ "" → (∀ node ∈ nodes, node.name ≠ name) →
          (run start).exitCode = 1 ∧
            (run start).output = "NetworkNode '" ++ name ++ "' not found.\n") ∧
        (name = "" → (run start).exitCode = 1 ∧ (run start).output = "")) ∧
      (∀ cause, start.files.readText file = .error cause →
        run start = ⟨1, "", (Failure.unreadable file cause).message⟩) ∧
      ∀ text cause, start.files.readText file = .ok text → parseAll text = .error cause →
        run start = ⟨1, "", (Failure.noNodes file cause).message⟩ := by
  obtain ⟨host, hfiles, hrun⟩ := run_of_asksForNode h
  rw [hrun, ← hfiles]
  refine ⟨?_, fun text nodes hread hnodes => ?_, fun cause hread => ?_,
    fun text cause hread hnodes => ?_⟩
  · rw [exitCode_node_eq_zero_iff]
    simp only [FileSystem.readText_eq_ok_iff]
    constructor
    · rintro ⟨text, nodes, ⟨content, hentry, htext⟩, hnamed⟩
      exact ⟨content, text, nodes, hentry, htext, hnamed⟩
    · rintro ⟨content, text, nodes, hentry, htext, hnamed⟩
      exact ⟨text, nodes, ⟨content, hentry, htext⟩, hnamed⟩
  · rw [node_of_parseAll hread hnodes]
    refine ⟨fun hname node hfirst => ?_, fun hname hnone => ?_, fun hname => ?_⟩
    · have hnode : node ∈ nodes := List.mem_of_find?_eq_some hfirst
      rw [finished_lookup_of_first hname hfirst]
      exact ⟨⟨rfl, rfl⟩, fun hwhole =>
        exists_parse_pretty (isWhole_of_parseAll hnodes hnode hwhole) (by decide)⟩
    · rw [finished_lookup_of_forall_ne hname hnone]
      exact ⟨rfl, rfl⟩
    · rw [hname, finished_lookup_empty]
      exact ⟨rfl, rfl⟩
  · rw [node_of_unreadable hread]
    rfl
  · rw [node_of_invalid hread hnodes]
    rfl

/-- Two nodes with the name that is asked for. -/
theorem run_shows_first_named_of_two :
    let text := "[\x7b\"Name\": \"GW\", \"Port\": 7\x7d, \x7b\"Name\": \"GW\", \"Port\": 8\x7d]"
    let start : Start :=
      ⟨["node", "--file=net", "--", "GW"].map Utf8.ofString, ⟨[]⟩, none, none, none,
        (FileTree.empty.addFile (.ofString "net") (Utf8.ofString text)).asWritten⟩
    AsksForNode start "GW" (.ofString "net") ∧
      (run start).exitCode = 0 ∧
      (run start).output = "Warning: NetworkNode 'GW' is not unique, taking first.\n" ++
        "\x7b\n  \"Name\": \"GW\",\n  \"Port\": 7\n\x7d\n" ∧
      ∃ json, Json.parse "\x7b\n  \"Name\": \"GW\",\n  \"Port\": 7\n\x7d" = .ok json ∧
        ofJson json = .ok ⟨"GW", [("Port", .number (.integer 7))]⟩ := by
  intro text start
  have hname : Utf8.string? (Utf8.ofString "GW") = some "GW" := by decide
  have hask : AsksForNode start "GW" (.ofString "net") :=
    asksForNode_of_arguments hname (by decide) (by decide) (by decide)
  let nodes : List NetworkNode := [⟨"GW", [("Port", .number (.integer 7))]⟩,
    ⟨"GW", [("Port", .number (.integer 8))]⟩]
  have hread : start.files.readText (.ofString "net") = .ok text := by decide
  have hnodes : parseAll text = .ok nodes := by
    simp only [text]
    rfl
  have hfound := ((run_shows_first_named hask).2.1 text nodes hread hnodes).1
  obtain ⟨⟨hcode, houtput⟩, hagain⟩ :=
    hfound (by decide) ⟨"GW", [("Port", .number (.integer 7))]⟩ rfl
  have hpretty : (toJson ⟨"GW", [("Port", .number (.integer 7))]⟩).pretty =
    "\x7b\n  \"Name\": \"GW\",\n  \"Port\": 7\n\x7d" := by decide +kernel
  rw [hpretty] at houtput hagain
  refine ⟨hask, hcode, houtput.trans (by decide +kernel), hagain ?_⟩
  intro setting hsetting n hn
  obtain rfl := List.mem_singleton.1 hsetting
  obtain ⟨⟩ := hn
  exact ⟨7, rfl⟩

end Program

end BusLocator
