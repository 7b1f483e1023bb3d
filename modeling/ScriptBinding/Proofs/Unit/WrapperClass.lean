import ScriptBinding.Proofs.Unit.Generation
import ScriptBinding.Proofs.Unit.Scopes

/-!
The wrapper class of a unit, read from both files: what the header declares in it without a body,
and what the source file defines outside of it. The plan of a class, the tables, the header and the
routines that install each say for themselves whether there is a class; they agree.
-/
namespace ScriptBinding

namespace Text

/-- The parts of a text before and after the last of a code point. -/
def cutLast? (mark : CodePoint) (t : Text) : Option (Text × Text) :=
  (cut? mark t.reverse).map fun (after, before) => (before.reverse, after.reverse)

theorem cutLast?_append {mark : CodePoint} {t : Text} (foreign : mark ∉ t) (rest : Text) :
    cutLast? mark (rest ++ mark :: t) = some (rest, t) := by
  have backwards : (rest ++ mark :: t).reverse = t.reverse ++ mark :: rest.reverse := by simp
  rw [cutLast?, backwards, cut?_append (by simpa using foreign)]
  simp

end Text

/-- A function with its parameters, or a variable, as it is declared. -/
structure Signature where
  type : Text
  name : Text
  parameters? : Option Text
deriving DecidableEq

namespace Signature

/-- The types of the members that are defined outside their class. -/
def memberTypes : List Text :=
  List.map Text.ofString ["void", "JSValue", "const WrapperTypeInfo", "const WrapperTypeInfo&"]

/-- What ends a declarator. -/
def stops : List CodePoint := ['(', '=', '\x7b', ';']

/-- What stands behind a declarator: nothing, or parameters up to a certain ending. -/
def readParameters (ending behind : Text) : Option (Option Text) :=
  match Text.after? "(" behind with
  | some rest => (Text.before? ending rest).map some
  | none => some none

/-- A declaration, or the line that begins a definition. -/
def read? (ending t : Text) : Option Signature := do
  let declarator := t.takeWhile fun p => !stops.contains p
  let (type, name) ← Text.cutLast? ' ' (declarator.reverse.dropWhile (· = .scalar ' ')).reverse
  let parameters? ← readParameters ending (t.dropWhile fun p => !stops.contains p)
  some ⟨type, name, parameters?⟩

/-- A declarator is read up to what ends it, with or without a space in between. -/
theorem read?_append {type name gap behind : Text} (plain : ∀ p ∈ type ++ " " ++ name, p ∉ stops)
    (some : name ≠ []) (spaceless : .scalar ' ' ∉ name)
    (blank : gap = [] ∨ gap = Text.ofString " ") (stopped : behind.head?.any stops.contains)
    (ending : Text) :
    read? ending (type ++ " " ++ name ++ gap ++ behind) =
      (readParameters ending behind).map fun parameters? => ⟨type, name, parameters?⟩ := by
  let declarator : Text := type ++ " " ++ name
  have open' : ∀ p ∈ declarator ++ gap, (!stops.contains p) = true := by
    simp only [List.mem_append, or_imp, forall_and]
    refine ⟨fun p mem => by simpa using plain p mem, ?_⟩
    rcases blank with rfl | rfl <;> decide
  have stop : behind.takeWhile (fun p => !stops.contains p) = [] ∧
      behind.dropWhile (fun p => !stops.contains p) = behind := by
    cases behind with
    | nil => exact ⟨rfl, rfl⟩
    | cons p rest =>
        have ends : p ∈ stops := by simpa using stopped
        simp [ends]
  have trimmed :
      ((declarator ++ gap).reverse.dropWhile (· = .scalar ' ')).reverse = declarator := by
    have last : declarator.reverse.dropWhile (· = .scalar ' ') = declarator.reverse := by
      obtain ⟨p, rest, backwards⟩ := List.exists_cons_of_ne_nil (List.reverse_ne_nil_iff.mpr some)
      have other : p ≠ .scalar ' ' := by
        rintro rfl
        exact spaceless (List.mem_reverse.mp (backwards ▸ List.mem_cons_self))
      simp [declarator, backwards, other]
    rcases blank with rfl | rfl <;> simp [last, Text.ofString]
  have parts : Text.cutLast? ' ' declarator = Option.some (type, name) := by
    rw [← Text.cutLast?_append spaceless type]
    simp [declarator, Text.ofString]
  rw [read?, List.takeWhile_append_of_pos open', List.dropWhile_append_of_pos open', stop.1, stop.2,
    List.append_nil, trimmed, parts]
  cases readParameters ending behind <;> rfl

end Signature

namespace Text

/-- The class whose definition a line begins. -/
def finalClass? (t : Text) : Option Text := (after? "class " t).bind (before? " final \x7b")

/-- A static member that a line of a class declares, if it has no body there. -/
def staticMember? (t : Text) : Option Signature :=
  (after? "  static " t).bind (Signature.read? ");")

/-- The class and the member that a line at the margin begins to define. What is static there
belongs to the file and not to a class. -/
def memberDefinition? (t : Text) : Option (Text × Signature) :=
  if t.isInner || t.beginsWith '\x7d' || t.startsWith "static " then none
  else do
    let s ← Signature.read? ") \x7b" t
    let (scope, rest) ← cut? ':' s.name
    some (scope, { s with name := ← after? ":" rest })

/-- A member is defined under the name of its class. -/
theorem memberDefinition?_append {type scope name gap behind : Text}
    (listed : type ∈ Signature.memberTypes) (word : scope.isWord) (named : name.isWord)
    (blank : gap = [] ∨ gap = Text.ofString " ")
    (stopped : behind.head?.any Signature.stops.contains) :
    memberDefinition? (type ++ " " ++ scope ++ "::" ++ name ++ gap ++ behind) =
      (Signature.readParameters ") \x7b" behind).map fun parameters? =>
        (scope, ⟨type, name, parameters?⟩) := by
  have foreign : ∀ p ∈ Signature.stops, p.isNamePart = false := by decide
  have types : ∀ type ∈ Signature.memberTypes, ∀ p ∈ type, p ∉ Signature.stops := by decide
  have margin (rest : Text) : ((type ++ rest).isInner || (type ++ rest).beginsWith '\x7d' ||
      (type ++ rest).startsWith "static ") = false := by
    simp only [Signature.memberTypes, List.map_cons, List.map_nil, List.mem_cons,
      List.not_mem_nil, or_false] at listed
    rcases listed with rfl | rfl | rfl | rfl <;> rfl
  have plain : ∀ p ∈ type ++ " " ++ (scope ++ "::" ++ name), p ∉ Signature.stops := by
    have parts {t : Text} (h : t.isWord) : ∀ p ∈ t, p ∉ Signature.stops := fun p mem stop =>
      not_mem_of_isWord h (foreign p stop) mem
    simp only [List.forall_mem_append]
    exact ⟨⟨types type listed, by decide⟩, ⟨parts word, by decide⟩, parts named⟩
  have spaceless : .scalar ' ' ∉ scope ++ ("::" : Text) ++ name := by
    simp only [List.mem_append, not_or]
    exact ⟨⟨not_mem_of_isWord word (by decide), by decide⟩, not_mem_of_isWord named (by decide)⟩
  have cut : cut? ':' (scope ++ ("::" ++ name)) = some (scope, ":" ++ name) :=
    cut?_append (not_mem_of_isWord word (by decide)) _
  have some : scope ++ ("::" : Text) ++ name ≠ [] := by simp [Text.ofString]
  have read := Signature.read?_append plain some spaceless blank stopped ") \x7b"
  rw [memberDefinition?]
  simp only [List.append_assoc] at read margin ⊢
  rw [margin, if_neg Bool.false_ne_true, read]
  cases Signature.readParameters ") \x7b" behind with
  | none => rfl
  | some parameters? =>
      simp only [Option.map_some, Option.bind_eq_bind, Option.bind_some, cut, after?_append]

theorem memberDefinition?_function {type scope name : Text}
    (listed : type ∈ Signature.memberTypes) (word : scope.isWord) (named : name.isWord)
    (parameters : Text) :
    memberDefinition? (type ++ " " ++ scope ++ "::" ++ name ++ ("(" ++ parameters ++ ") \x7b")) =
      some (scope, ⟨type, name, some parameters⟩) := by
  let behind : Text := "(" ++ parameters ++ ") \x7b"
  have read : Signature.readParameters ") \x7b" behind = some (some parameters) := by
    have first : after? "(" behind = some (parameters ++ ") \x7b") := rfl
    simp only [Signature.readParameters, first, before?_append, Option.map_some]
  have stopped : behind.head?.any Signature.stops.contains := rfl
  have member := memberDefinition?_append listed word named (.inl rfl) stopped
  rwa [read, List.append_nil] at member

theorem memberDefinition?_variable {type scope name behind : Text}
    (listed : type ∈ Signature.memberTypes) (word : scope.isWord) (named : name.isWord)
    (stopped : behind.head?.any Signature.stops.contains)
    (unread : Signature.readParameters ") \x7b" behind = some none) :
    memberDefinition? (type ++ " " ++ scope ++ "::" ++ name ++ " " ++ behind) =
      some (scope, ⟨type, name, none⟩) := by
  rw [memberDefinition?_append listed word named (.inr rfl) stopped, unread]
  rfl

end Text

namespace Block

/-- A block that defines a member of a class. -/
def defines (scope name : Text) (b : Block) : Bool :=
  b.opening.memberDefinition?.any fun (found, s) => found = scope && s.name = name

/-- The routines that a block calls with its context, if it does nothing else. -/
def contextCalls? (b : Block) : Option (List Text) :=
  b.inside.mapM fun t => (Text.after? "  " t).bind (Text.before? "(context);")

end Block

/-- The member of a class that code at the margin defines. -/
def Code.memberDefinition? (c : Code) : Option (Text × Signature) :=
  c.block?.bind (·.opening.memberDefinition?)

theorem Code.memberDefinition?_block (opening : Text) (body : List Code) (closing : Text) :
    (block opening body closing).memberDefinition? = opening.memberDefinition? := rfl

theorem Code.IsDefinition.filterMap_memberDefinition? {c : Code} (h : c.IsDefinition) :
    (c.linesAt glueIndent 0).filterMap Text.memberDefinition? = c.memberDefinition?.toList := by
  obtain ⟨type, rest, body, rfl, -, kept⟩ := h
  have inner := isInner_of_mem_allLinesAt (show (0 : Int) < 0 + 1 by decide) body kept
  have skipped : (allLinesAt glueIndent (0 + 1) body).filterMap Text.memberDefinition? = [] :=
    List.filterMap_eq_nil_iff.mpr fun t mem => by simp [Text.memberDefinition?, inner t mem]
  have closing : Text.memberDefinition? "\x7d" = none := rfl
  rw [linesAt, indentedLine_zero, indentedLine_zero, List.filterMap_cons, List.filterMap_append,
    skipped, List.nil_append, List.filterMap_cons, closing, memberDefinition?_block]
  cases Text.memberDefinition? (type ++ rest ++ " \x7b") <;> rfl

theorem Code.filterMap_memberDefinition?_spaced {code : List Code}
    (h : ∀ c ∈ code, c.IsDefinition) :
    (allLinesAt glueIndent 0 (spaced code)).filterMap Text.memberDefinition? =
      code.filterMap memberDefinition? := by
  induction code with
  | nil => rfl
  | cons c rest ih =>
      obtain ⟨first, others⟩ := List.forall_mem_cons.mp h
      have split : spaced (c :: rest) = c :: .blank :: spaced rest := rfl
      have blank : (Code.blank.linesAt glueIndent 0).filterMap Text.memberDefinition? = [] := rfl
      rw [split, allLinesAt, allLinesAt, List.filterMap_append, List.filterMap_append,
        first.filterMap_memberDefinition?, blank, List.nil_append, ih others, List.filterMap_cons]
      cases c.memberDefinition? <;> rfl

namespace ModulePlan

variable (p : ModulePlan)

/-- The last class that the header defines. -/
def declaredClass? : Option Text := (p.headerLines.filterMap Text.finalClass?).getLast?

/-- The static members that the header declares without a body. -/
def declaredMembers : List Signature :=
  (Text.behindLast p.wrapperLine p.headerLines).filterMap Text.staticMember?

/-- The members of the wrapper class that the source file defines. -/
def definedMembers : List Signature :=
  (p.contents.filterMap Text.memberDefinition?).filterMap fun (scope, s) =>
    if scope = p.wrapperName then some s else none

/-- A routine of the wrapper class. -/
def routineSignature (name : Text) : Signature := ⟨"void", name, some "ExecutingContext* context"⟩

def constructorSignature : Signature :=
  ⟨"JSValue", "ConstructorCallback", some constructorParameters⟩

def typeInfoSignature : Signature := ⟨"const WrapperTypeInfo", "wrapper_type_info_", none⟩

/-- The type information of the wrapper class, and the reference to it in the class it wraps. -/
def typeInfoMembers : List (Text × Signature) :=
  [(p.wrapperName, typeInfoSignature),
    (p.className, { typeInfoSignature with type := "const WrapperTypeInfo&" })]

section
variable {p} (word : p.wrapperName.isWord)
include word

theorem memberDefinition?_installRoutine {name : Text} (named : name.isWord) (body : List Code) :
    (installRoutine p.wrapperName name body).memberDefinition? =
      some (p.wrapperName, routineSignature name) := by
  have opening : Text.ofString "void " = "void" ++ Text.ofString " " := rfl
  have closing : Text.ofString "(ExecutingContext* context) \x7b" =
      "(" ++ (Text.ofString "ExecutingContext* context" ++ Text.ofString ") \x7b") := rfl
  have listed : Text.ofString "void" ∈ Signature.memberTypes := by decide
  have member := Text.memberDefinition?_function listed word named "ExecutingContext* context"
  rw [installRoutine, Code.memberDefinition?_block, routineOpening, opening, closing]
  simp only [List.append_assoc] at member ⊢
  exact member

theorem memberDefinition?_constructorCode (c : CallPlan) :
    (p.constructorCode c).memberDefinition? = some (p.wrapperName, constructorSignature) := by
  have listed : Text.ofString "JSValue" ∈ Signature.memberTypes := by decide
  have named : (Text.ofString "ConstructorCallback").isWord := by decide
  have opening : Text.ofString "JSValue " = "JSValue" ++ Text.ofString " " := rfl
  have middle : Text.ofString "::ConstructorCallback(" =
      "::" ++ (Text.ofString "ConstructorCallback" ++ Text.ofString "(") := rfl
  have member := Text.memberDefinition?_function listed word named constructorParameters
  rw [constructorCode, Code.memberDefinition?_block, constructorOpening, opening, middle]
  simp only [List.append_assoc] at member ⊢
  exact member

/-- What a member defines of the wrapper class: a class its constructor, a function nothing. -/
theorem filterMap_memberDefinition?_memberCode (member : MemberPlan) :
    (p.memberCode member).filterMap Code.memberDefinition? =
      member.class?.toList.map fun _ => (p.wrapperName, constructorSignature) := by
  cases member with
  | function plan => rfl
  | cls c =>
      have constructor := memberDefinition?_constructorCode word c.constructor
      have callbacks (name : Text) (body : List Code) :
          (callback name body).memberDefinition? = none := rfl
      rw [memberCode, List.filterMap_cons, constructor]
      show _ :: List.filterMap _ _ = [_]
      rw [List.cons.injEq]
      refine ⟨rfl, List.filterMap_eq_nil_iff.mpr fun code mem => ?_⟩
      simp only [List.mem_append, List.mem_map, List.mem_filterMap, Option.map_eq_some_iff] at mem
      rcases mem with (⟨a, -, rfl⟩ | ⟨a, -, s, -, rfl⟩) | ⟨f, -, rfl⟩
      · exact callbacks _ _
      · exact callbacks _ _
      · exact callbacks _ _

theorem filterMap_memberDefinition?_members :
    (p.members.flatMap p.memberCode).filterMap Code.memberDefinition? =
      (p.members.filterMap MemberPlan.class?).map fun _ =>
        (p.wrapperName, constructorSignature) := by
  rw [List.filterMap_flatMap]
  simp only [filterMap_memberDefinition?_memberCode word]
  induction p.members with
  | nil => rfl
  | cons member rest ih =>
      rw [List.flatMap_cons, ih, List.filterMap_cons]
      cases member.class? <;> rfl

theorem filterMap_memberDefinition?_installers :
    p.installers.filterMap Code.memberDefinition? =
      (Text.ofString "Install" :: p.installRoutines).map fun name =>
        (p.wrapperName, routineSignature name) := by
  have install := memberDefinition?_installRoutine word
    (show (Text.ofString "Install").isWord by decide)
  have functions := memberDefinition?_installRoutine word
    (show (Text.ofString "InstallGlobalFunctions").isWord by decide)
  have constructor := memberDefinition?_installRoutine word
    (show (Text.ofString "InstallConstructor").isWord by decide)
  have methods := memberDefinition?_installRoutine word
    (show (Text.ofString "InstallPrototypeMethods").isWord by decide)
  have properties := memberDefinition?_installRoutine word
    (show (Text.ofString "InstallPrototypeProperties").isWord by decide)
  rw [installers, ModulePlan.installRoutines, Registrations.hasClass]
  cases p.registrations.constructor? with
  | none => simp [installCode, globalFunctionsCode, install, functions]
  | some name =>
      simp [installCode, globalFunctionsCode, constructorTableCode, prototypeMethodsCode,
        prototypePropertiesCode, install, functions, constructor, methods, properties]

theorem filterMap_memberDefinition?_typeInfoCode (backing : p.className.isWord) :
    (Code.allLinesAt glueIndent 0 p.typeInfoCode).filterMap Text.memberDefinition? =
      p.typeInfoMembers := by
  have named : (Text.ofString "wrapper_type_info_").isWord := by decide
  let initial : Text := "\x7bJS_CLASS_" ++ p.className.screamingSnake ++ ", \"" ++
    p.className.quoted ++ "\", nullptr, " ++ p.wrapperName ++ "::ConstructorCallback\x7d;"
  let reference : Text := "= " ++ p.wrapperName ++ "::wrapper_type_info_;"
  have own : Text.memberDefinition? (Text.ofString "const WrapperTypeInfo" ++ " " ++
      p.wrapperName ++ "::" ++ "wrapper_type_info_" ++ " " ++ initial) =
        some (p.wrapperName, typeInfoSignature) :=
    Text.memberDefinition?_variable (by decide) word named rfl rfl
  have other : Text.memberDefinition? (Text.ofString "const WrapperTypeInfo&" ++ " " ++
      p.className ++ "::" ++ "wrapper_type_info_" ++ " " ++ reference) =
        some (p.className, { typeInfoSignature with type := "const WrapperTypeInfo&" }) :=
    Text.memberDefinition?_variable (by decide) backing named rfl rfl
  have lines : Code.allLinesAt glueIndent 0 p.typeInfoCode =
      [Text.ofString "const WrapperTypeInfo" ++ " " ++ p.wrapperName ++ "::" ++
        "wrapper_type_info_" ++ " " ++ initial,
      Text.ofString "const WrapperTypeInfo&" ++ " " ++ p.className ++ "::" ++
        "wrapper_type_info_" ++ " " ++ reference] := by
    have type : Text.ofString "const WrapperTypeInfo " =
        "const WrapperTypeInfo" ++ Text.ofString " " := rfl
    have type' : Text.ofString "const WrapperTypeInfo& " =
        "const WrapperTypeInfo&" ++ Text.ofString " " := rfl
    have name : Text.ofString "::wrapper_type_info_ \x7bJS_CLASS_" =
        "::" ++ (Text.ofString "wrapper_type_info_" ++ (" " ++ Text.ofString "\x7bJS_CLASS_")) := rfl
    have name' : Text.ofString "::wrapper_type_info_ = " =
        "::" ++ (Text.ofString "wrapper_type_info_" ++ (" " ++ Text.ofString "= ")) := rfl
    simp only [typeInfoCode, typeInfoLine, typeReferenceLine, Code.allLinesAt, Code.linesAt,
      Code.indentedLine_zero, initial, reference, type, type', name, name', List.append_assoc,
      List.singleton_append]
  rw [lines, List.filterMap_cons, own, List.filterMap_cons, other]
  rfl

theorem filterMap_memberDefinition?_contents (backing : p.className.isWord) :
    p.contents.filterMap Text.memberDefinition? =
      (if p.classPlan?.isSome then p.typeInfoMembers else []) ++
      (p.members.filterMap MemberPlan.class?).map (fun _ =>
        (p.wrapperName, constructorSignature)) ++
      (Text.ofString "Install" :: p.installRoutines).map fun name =>
        (p.wrapperName, routineSignature name) := by
  have typeInfo : (Code.allLinesAt glueIndent 0
      (if p.classPlan?.isSome then p.typeInfoCode ++ [.blank] else [])).filterMap
        Text.memberDefinition? = if p.classPlan?.isSome then p.typeInfoMembers else [] := by
    split
    · rw [Code.allLinesAt_append, List.filterMap_append,
        filterMap_memberDefinition?_typeInfoCode word backing]
      rfl
    · rfl
  have closing : (Code.allLinesAt glueIndent 0 [p.namespaceClosing]).filterMap
      Text.memberDefinition? = [] := rfl
  rw [contents_eq, contentsCode]
  simp only [Code.allLinesAt_append, List.filterMap_append, typeInfo, closing,
    Code.filterMap_memberDefinition?_spaced fun c => p.isDefinition_definitions]
  rw [definitions, List.filterMap_append, filterMap_memberDefinition?_members word,
    filterMap_memberDefinition?_installers word, List.append_nil, ← List.append_assoc]
  rfl

/-- The source file defines the type information and the constructor if there is a class, and the
routines that install. -/
theorem definedMembers_eq (backing : p.className.isWord) :
    p.definedMembers = (if p.classPlan?.isSome then [typeInfoSignature] else []) ++
      (p.members.filterMap MemberPlan.class?).map (fun _ => constructorSignature) ++
      (Text.ofString "Install" :: p.installRoutines).map routineSignature := by
  have own {α : Type} (items : List α) (f : α → Signature) :
      (items.map fun a => (p.wrapperName, f a)).filterMap
        (fun (scope, s) => if scope = p.wrapperName then some s else none) = items.map f := by
    simp [List.filterMap_map]
  have other : p.className ≠ p.wrapperName := by
    intro same
    have lengths := congrArg List.length same
    have three : (Text.ofString "QJS").length = 3 := rfl
    rw [wrapperName, className, List.length_append] at lengths
    omega
  rw [definedMembers, filterMap_memberDefinition?_contents word backing]
  simp only [List.filterMap_append, own]
  congr 2
  split
  · simp [typeInfoMembers, other]
  · rfl

end

/-- The members that the header declares, for a unit with or without a class. -/
theorem declaredMembers_eq :
    p.declaredMembers = routineSignature "Install" ::
      ((if p.registrations.hasClass then [constructorSignature, typeInfoSignature] else []) ++
        p.installRoutines.map routineSignature) := by
  have ending : p.wrapperEnding.filterMap Text.staticMember? = [] := rfl
  rw [declaredMembers, behindLast_headerLines, wrapperBehind, List.filterMap_append, ending,
    List.append_nil, installRoutines]
  cases p.registrations.hasClass <;> decide +kernel

theorem declaredClass?_eq : p.declaredClass? = some p.wrapperName := by
  obtain ⟨ahead, lines⟩ := p.headerLines_eq
  have opening : p.wrapperLine.finalClass? = some p.wrapperName := by
    rw [wrapperLine, List.append_assoc, Text.finalClass?, Text.after?_append]
    exact Text.before?_append _ _
  have inside : ∀ hasClass, (Code.allLinesAt glueIndent 0 (wrapperInside hasClass)).filterMap
      Text.finalClass? = [] := by decide +kernel
  have ending : p.wrapperEnding.filterMap Text.finalClass? = [] := rfl
  rw [declaredClass?, lines, List.filterMap_append, List.filterMap_cons, opening, wrapperBehind,
    List.filterMap_append, inside, ending]
  simp

/-- The body of `Install` calls the other routines that install, one by one. -/
theorem contextCalls?_installCode :
    ∃ b, p.installCode.block? = some b ∧ b.contextCalls? = some p.installRoutines := by
  refine ⟨_, rfl, ?_⟩
  rw [Block.contextCalls?]
  induction p.installRoutines with
  | nil => rfl
  | cons name rest ih =>
      have line : indentedLine glueIndent 1 (name ++ "(context);") =
          "  " ++ (name ++ "(context);") := by
        rw [indentedLine, if_neg (by simp [Text.ofString])]
        rfl
      simp only [List.map_cons, Code.allLinesAt, Code.linesAt, line, List.singleton_append,
        List.mapM_cons, Text.after?_append, Text.before?_append, Option.bind_some, ih,
        Option.bind_eq_bind]
      rfl

theorem filter_defines_eq_nil {codes : List Code} {defined : List (Text × Signature)}
    (read : codes.filterMap Code.memberDefinition? = defined) {name : Text}
    (others : ∀ d ∈ defined, d.2.name ≠ name) (scope : Text) :
    (codes.filterMap Code.block?).filter (Block.defines scope name) = [] := by
  refine List.filter_eq_nil_iff.mpr fun b mem found => ?_
  obtain ⟨c, listed, block⟩ := List.mem_filterMap.mp mem
  rw [Block.defines] at found
  cases member : b.opening.memberDefinition? with
  | none => exact absurd found (by simp [member])
  | some d =>
      have own : c.memberDefinition? = some d := by rw [Code.memberDefinition?, block]; exact member
      rw [member, Option.any_some, Bool.and_eq_true, decide_eq_true_eq, decide_eq_true_eq] at found
      exact others d (read ▸ List.mem_filterMap.mpr ⟨c, listed, own⟩) found.2

/-- There is one block for `Install`. -/
theorem filter_defines_install (word : p.wrapperName.isWord) :
    p.blocks.filter (Block.defines p.wrapperName "Install") = p.installCode.block?.toList := by
  have first : p.installers = p.installCode :: p.installers.tail := rfl
  have install : p.installCode.memberDefinition? =
      some (p.wrapperName, routineSignature "Install") :=
    memberDefinition?_installRoutine word (by decide) _
  have installers := filterMap_memberDefinition?_installers word
  rw [first, List.filterMap_cons, install, List.map_cons, List.cons.injEq] at installers
  have constructor : constructorSignature.name ≠ Text.ofString "Install" := by decide
  have routines : ∀ name ∈ p.installRoutines, name ≠ Text.ofString "Install" := by
    rw [installRoutines]
    cases p.registrations.hasClass <;> decide
  have ahead := filter_defines_eq_nil (filterMap_memberDefinition?_members word)
    (List.forall_mem_map.mpr fun _ _ => constructor) p.wrapperName
  have behind := filter_defines_eq_nil installers.2 (List.forall_mem_map.mpr routines) p.wrapperName
  obtain ⟨b, block, -⟩ := p.contextCalls?_installCode
  have found : b.defines p.wrapperName "Install" := by
    have opening : b.opening.memberDefinition? =
        some (p.wrapperName, routineSignature "Install") := by
      rw [Code.memberDefinition?, block] at install
      exact install
    rw [Block.defines, opening]
    simp [routineSignature]
  rw [blocks_eq, definitions, first, List.filterMap_append, List.filter_append, ahead,
    List.filterMap_cons, block]
  simp only [List.nil_append, List.filter_cons, found, if_true, behind, Option.toList_some]

end ModulePlan

namespace Module

/-- Header and source of a unit agree on its wrapper class, and all that can tell whether there is a
class does so alike. What the header declares without a body is defined in the source file, with
the same parameters and once each, and nothing else of the class is. The body of `Install` calls
the other routines that install. -/
theorem wrapper_declared_as_defined {m : Module} (valid : m.isValid) (options : Options) :
    ∃ p, m.plan options = .ok p ∧
      p.header = Text.join "\n" p.headerLines ++ "\n" ∧
      p.source = Text.join "\n" p.sourceLines ++ "\n" ∧
      p.classPlan?.isSome = m.hasClass ∧ p.registrations.hasClass = m.hasClass ∧
      p.declaredClass? = some p.wrapperName ∧ p.declaredMembers.Perm p.definedMembers ∧
      p.declaredMembers.map Signature.name =
        m.wrapperMembers.filter (· ≠ Text.ofString "GetWrapperTypeInfo") ∧
      (p.declaredMembers.map Signature.name).Nodup ∧
      ∃ b, p.blocks.filter (Block.defines p.wrapperName "Install") = [b] ∧
        b.contextCalls? = some ((p.declaredMembers.map Signature.name).filter fun name =>
          name.startsWith "Install" && name ≠ Text.ofString "Install") := by
  have formed := wellFormed_of_isValid valid
  let p := m.planned options
  have registered : p.registrations.hasClass = m.hasClass := hasClass_tables m
  have planned : p.classPlan?.isSome = m.hasClass :=
    (m.isSome_classPlan?_planned options).trans registered
  have backing : p.className.isWord := Text.isWord_of_isIdentifier formed.backing
  have word : p.wrapperName.isWord := Text.isWord_append (by decide) backing
  have classes : (p.members.filterMap MemberPlan.class?).map
      (fun _ => ModulePlan.constructorSignature) =
        if m.hasClass then [ModulePlan.constructorSignature] else [] := by
    rw [m.classPlans_planned, hasClass, List.map_map]
    rcases formed.classes_eq with none | ⟨c, single, -⟩
    · rw [none]
      rfl
    · rw [single]
      rfl
  have declared := p.declaredMembers_eq
  have defined := ModulePlan.definedMembers_eq word backing
  rw [ModulePlan.installRoutines, registered] at declared defined
  rw [planned, classes] at defined
  obtain ⟨b, block, calls⟩ := p.contextCalls?_installCode
  have install := p.filter_defines_install word
  rw [block] at install
  rw [ModulePlan.installRoutines, registered] at calls
  refine ⟨p, plan_eq_ok valid options, p.header_eq_join, p.source_eq_join, planned, registered,
    p.declaredClass?_eq, ?_, ?_, ?_, b, install, ?_⟩
  · rw [declared, defined]
    cases m.hasClass <;> decide
  · rw [declared, wrapperMembers]
    cases m.hasClass <;> decide
  · rw [declared]
    cases m.hasClass <;> decide
  · rw [calls, declared]
    cases m.hasClass <;> decide

theorem wrapper_declared_as_defined_page :
    page.isValid ∧ ∃ p, page.plan .standard = .ok p ∧
      p.declaredClass? = some (Text.ofString "QJSPage") ∧
      p.declaredMembers.Perm p.definedMembers ∧
      ∃ b, p.blocks.filter (Block.defines "QJSPage" "Install") = [b] ∧
        b.contextCalls? = some (List.map Text.ofString ["InstallGlobalFunctions",
          "InstallConstructor", "InstallPrototypeMethods", "InstallPrototypeProperties"]) := by
  obtain ⟨p, planned, -, -, -, -, named, members, names, -, b, install, calls⟩ :=
    wrapper_declared_as_defined isValid_page .standard
  obtain rfl : p = page.planned .standard :=
    Except.ok.inj (planned.symm.trans (plan_eq_ok isValid_page .standard))
  refine ⟨isValid_page, _, planned, named, members, b, install, ?_⟩
  rw [calls, names]
  decide

end Module

end ScriptBinding
