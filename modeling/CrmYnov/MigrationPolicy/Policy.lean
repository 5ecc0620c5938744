import CrmYnov.MigrationPolicy.Grammar
import Mathlib.Algebra.Order.Ring.Rat

/-!
# What the migration policy approves

A migration is approved when it carries its markers, names nothing persistent or secret, and each
of its statements is of a kind that only adds: the policy reads the statements that its lexer cuts.

`MigrationPolicy.approved_statements` says that the statements it has judged are those that
PostgreSQL finds, where the text is plain. A comment that goes on after a carriage return is not:
`MigrationPolicy.Sample.drop_hidden` is a migration that is approved, and drops a table.
-/

namespace CrmYnov.MigrationPolicy

open Checked

def includes (text part : String) : Bool :=
  text.toList.tails.any fun rest => part.toList.isPrefixOf rest

section

variable (u : Js.Unicode)

/-! ### Reading tokens -/

def keyword (value : String) (token : Token) : Bool :=
  token.kind == .word && u.toUpperCase token.value == value

def identifier (token : Token) : Bool := token.kind == .identifier || token.kind == .word

def symbol (value : String) (token : Token) : Bool := token.kind == .symbol && token.value == value

def accept (wanted : Token → Bool) : List Token → Option (List Token)
  | [] => none
  | t :: rest => if wanted t then some rest else none

/-- `input.id()` -/
def readId : List Token → Option (String × List Token)
  | [] => none
  | t :: rest => if identifier t then some (t.value, rest) else none

def skip (wanted : Token → Bool) (tokens : List Token) : List Token :=
  (accept wanted tokens).getD tokens

/-- The identifiers of a list, after the first one, up to the closing parenthesis. -/
def moreIdentifiers : List Token → Option (List Token)
  | comma :: t :: rest =>
    if symbol "," comma then if identifier t then moreIdentifiers rest else none
    else accept (symbol ")") (comma :: t :: rest)
  | tokens => accept (symbol ")") tokens

variable (tokens : List Token)

def identifierList : Option (List Token) := do
  let tokens ← accept (symbol "(") tokens
  let (_, tokens) ← readId tokens
  moreIdentifiers tokens

/-- The actions at the end of a foreign key. -/
def actions (seen : List String) : List Token → Bool
  | [] => !seen.isEmpty
  | on :: event :: action :: rest =>
    keyword u "ON" on &&
      (keyword u "DELETE" event && !seen.contains "DELETE" && keyword u "RESTRICT" action &&
          actions ("DELETE" :: seen) rest ||
        keyword u "UPDATE" event && !seen.contains "UPDATE" && keyword u "CASCADE" action &&
          actions ("UPDATE" :: seen) rest)
  | _ => false

def foreignKeyActions : Bool :=
  let afterName := match accept (keyword u "CONSTRAINT") tokens with
    | none => some tokens
    | some rest => (readId rest).map Prod.snd
  let afterKey := do
    let tokens ← accept (keyword u "FOREIGN") (← afterName)
    let tokens ← identifierList (← accept (keyword u "KEY") tokens)
    let (_, tokens) ← readId (← accept (keyword u "REFERENCES") tokens)
    identifierList tokens
  afterKey.any (actions u [])

/-- The parts of a table definition, after its opening parenthesis, which are told apart by their
places. -/
def partsFrom (depth : ℕ) (current : List (Token × ℕ)) (parts : List (List (Token × ℕ))) :
    List (Token × ℕ) → List (List (Token × ℕ))
  | [] => []
  | t :: rest =>
    if symbol ")" t.1 && depth == 1 then
      if rest.isEmpty && !(parts ++ [current]).any List.isEmpty then parts ++ [current] else []
    else if symbol "," t.1 && depth == 1 then partsFrom depth [] (parts ++ [current]) rest
    else
      partsFrom (if symbol "(" t.1 then depth + 1 else if symbol ")" t.1 then depth - 1 else depth)
        (current ++ [t]) parts rest

def tableDefinitionParts (tokens : List (Token × ℕ)) : List (List (Token × ℕ)) :=
  partsFrom 1 [] [] (tokens.drop 4)

def at? (wanted : Token → Bool) (tokens : List Token) (place : ℕ) : Bool :=
  tokens[place]?.any wanted

/-- `recognizedForeignKeyWords`: the tokens, with their places. -/
def recognizedForeignKeyWords : List (Token × ℕ) :=
  let isAction := fun t : Token × ℕ => keyword u "DELETE" t.1 || keyword u "UPDATE" t.1
  if at? (keyword u "ALTER") tokens 0 && at? (keyword u "TABLE") tokens 1 &&
      at? identifier tokens 2 && at? (keyword u "ADD") tokens 3 then
    let definition := tokens.zipIdx.drop 4
    if foreignKeyActions u (definition.map Prod.fst) then definition.filter isAction else []
  else if at? (keyword u "CREATE") tokens 0 && at? (keyword u "TABLE") tokens 1 &&
      at? identifier tokens 2 && at? (symbol "(") tokens 3 then
    ((tableDefinitionParts tokens.zipIdx).filter fun part =>
      foreignKeyActions u (part.map Prod.fst)).flatten.filter isAction
  else []

/-! ### Columns that are added -/

def numericLiteral : Option (List Token) :=
  accept (fun t => t.kind == .number) (skip (fun t => symbol "+" t || symbol "-" t) tokens)

def defaultLiteral : Option (List Token) :=
  accept (fun t => t.kind == .string) tokens <|>
    accept (fun t => keyword u "TRUE" t || keyword u "FALSE" t ||
      keyword u "CURRENT_TIMESTAMP" t) tokens <|>
    (match accept (fun t => keyword u "NOW" t || keyword u "GEN_RANDOM_UUID" t) tokens with
      | some rest => (accept (symbol "(") rest).bind (accept (symbol ")"))
      | none => numericLiteral tokens)

def domainFrom (seen : List String) : List Token → Option (List Token)
  | t :: next :: rest =>
    if t.kind == .string && t.value != "" && Js.length t.value ≤ 64 && !seen.contains t.value &&
        seen.length < 16 then
      if symbol "," next then domainFrom (t.value :: seen) rest
      else accept (symbol ")") (next :: rest)
    else none
  | _ => none

def boundedStringDomain : Option (List Token) :=
  (accept (symbol "(") tokens).bind (domainFrom [])

def boundedCheck (column : String) (tokens : List Token) : Option (List Token) := do
  let (id, tokens) ← readId (← accept (symbol "(") tokens)
  if id ≠ column then none
  else
    match accept (keyword u "IN") tokens with
    | some rest => (boundedStringDomain rest).bind (accept (symbol ")"))
    | none =>
      match accept (keyword u "BETWEEN") tokens with
      | some rest =>
        ((numericLiteral rest).bind (accept (keyword u "AND"))).bind fun rest =>
          (numericLiteral rest).bind (accept (symbol ")"))
      | none =>
        (accept (fun t => [">=", "<=", ">", "<", "=", "<>", "!="].any (symbol · t)) tokens).bind
          fun rest => (numericLiteral rest).bind (accept (symbol ")"))

def typeNames : List String :=
  ["TEXT", "UUID", "JSON", "JSONB", "BOOLEAN", "INTEGER", "INT", "BIGINT", "SMALLINT", "VARCHAR",
    "CHAR", "CHARACTER", "TIMESTAMP", "TIMESTAMPTZ", "DATE", "NUMERIC", "DECIMAL", "REAL",
    "DOUBLE"]

def typeSize : Option (List Token) :=
  match accept (symbol "(") tokens with
  | none => some tokens
  | some rest =>
    (accept (fun t => t.kind == .number && t.value.toList.all Js.isDigit) rest).bind
      (accept (symbol ")"))

def columnType : List Token → Option (List Token)
  | [] => none
  | t :: rest =>
    let name := u.toUpperCase t.value
    if t.kind ≠ .word ∨ name ∉ typeNames then none
    else if name = "DOUBLE" then (accept (keyword u "PRECISION") rest).bind typeSize
    else if name = "CHARACTER" then (accept (keyword u "VARYING") rest).bind typeSize
    else typeSize rest

/-- `columnConstraint`: its name, and what follows it. -/
def columnConstraint (column : String) (tokens : List Token) : Option (String × List Token) :=
  match accept (keyword u "NOT") tokens with
  | some rest => (accept (keyword u "NULL") rest).map fun rest => ("NOT", rest)
  | none =>
    match accept (keyword u "DEFAULT") tokens with
    | some rest => (defaultLiteral u rest).map fun rest => ("DEFAULT", rest)
    | none =>
      (accept (keyword u "CHECK") tokens).bind fun rest =>
        (boundedCheck u column rest).map fun rest => ("CHECK", rest)

/-- The constraints of a column; each takes one unit of fuel, and more than one token. -/
def columnConstraints (column : String) : ℕ → List String → List Token → Option (List Token)
  | 0, _, _ => none
  | n + 1, seen, tokens =>
    if tokens.isEmpty || tokens.head?.any (symbol ",") then
      if seen.contains "NOT" && !seen.contains "DEFAULT" then none else some tokens
    else
      match columnConstraint u column tokens with
      | none => none
      | some (name, rest) =>
        if seen.contains name then none else columnConstraints column n (name :: seen) rest

def columnDefinition : Option (List Token) := do
  let (column, tokens) ← readId tokens
  let tokens ← columnType u tokens
  columnConstraints u column (tokens.length + 1) [] tokens

/-- The columns that are added, each with one unit of fuel. -/
def addedColumns : ℕ → List Token → Bool
  | 0, _ => false
  | n + 1, tokens =>
    match ((accept (keyword u "ADD") tokens).bind (accept (keyword u "COLUMN"))).bind
        (columnDefinition u) with
    | none => false
    | some [] => true
    | some (comma :: rest) => symbol "," comma && addedColumns n rest

def structuredAddColumn : Bool :=
  let definition := ((accept (keyword u "ALTER") tokens).bind (accept (keyword u "TABLE"))).bind
    readId
  definition.any fun rest => addedColumns u (rest.2.length + 1) rest.2

def statementText : String :=
  " ".intercalate (tokens.map fun token =>
    match token.kind with
    | .identifier => "\"" ++ String.ofList (token.value.toList.flatMap fun c =>
        if c = '"' then ['"', '"'] else [c]) ++ "\""
    | .string => "'literal'"
    | _ => token.value)

/-! ### The protective journal -/

def protectiveJournalBody : String := "
BEGIN
  IF TG_OP IN ('DELETE','TRUNCATE') THEN
    RAISE EXCEPTION 'business_mail_journal_delete_forbidden' USING ERRCODE = '23514';
  END IF;
  IF TG_OP = 'INSERT' THEN
    IF NEW.status <> 'SENDING' THEN
      RAISE EXCEPTION 'business_mail_journal_initial_state_invalid' USING ERRCODE = '23514';
    END IF;
    RETURN NEW;
  END IF;
  IF NEW IS NOT DISTINCT FROM OLD THEN RETURN NEW; END IF;
  IF ROW(NEW.key,NEW.event_type,NEW.resource_id,NEW.template_version,NEW.fingerprint," ++
  "NEW.recipient_user_ids,NEW.sending_token,NEW.created_at,NEW.sending_at)
    IS DISTINCT FROM ROW(OLD.key,OLD.event_type,OLD.resource_id,OLD.template_version," ++
  "OLD.fingerprint,OLD.recipient_user_ids,OLD.sending_token,OLD.created_at,OLD.sending_at)
    OR OLD.status <> 'SENDING' OR NEW.status NOT IN ('ACCEPTED','UNCERTAIN') THEN
    RAISE EXCEPTION 'business_mail_journal_transition_forbidden' USING ERRCODE = '23514';
  END IF;
  RETURN NEW;
END;
"

def columns : List String :=
  ["key", "event_type", "resource_id", "template_version", "fingerprint", "recipient_user_ids",
    "status", "sending_token", "created_at", "sending_at", "accepted_at", "uncertain_at",
    "provider_message_id", "uncertainty_code"]

def name (t : Token) : Option String :=
  if identifier t &&
      Js.headMatch Js.isLower (fun c => Js.isLower c || Js.isDigit c || c == '_') 0 62 t.value then
    some t.value
  else none

def nameAt (place : ℕ) : Option String := tokens[place]?.bind name

def signature : List Token :=
  tokens.map fun t => if t.kind = .word then { t with value := u.toUpperCase t.value } else t

variable (source : String)

def bodySignature : Except LexError (List (List Token)) :=
  (sqlStatements source).map fun statements => statements.map (signature u)

def equalSql : Bool :=
  (bodySignature u source).toOption.any fun statements =>
    statements.head? == some (signature u tokens)

/-- The names of the columns that a table definition gives. -/
def columnNames : List (Option String) :=
  ((tableDefinitionParts tokens.zipIdx).filter fun part =>
    !part.head?.any fun t => keyword u "CONSTRAINT" t.1).map fun part =>
      part.head?.bind fun t => name t.1

/-- A statement of `journalTables`: both lists are compared once sorted. -/
def isJournalTable : Bool :=
  at? (keyword u "CREATE") tokens 0 && at? (keyword u "TABLE") tokens 1 &&
    (nameAt tokens 2).isSome && (columnNames u tokens).isPerm (columns.map some)

def quote (s : String) : String := "\"" ++ s ++ "\""

/-- The protective function that a statement creates, with the body that is expected. -/
def protectiveFunction : Option String := do
  let functionName ← nameAt tokens 2
  let last ← tokens[10]?
  if tokens.length = 11 ∧ last.kind = .body ∧
      equalSql u (tokens.take 10) ("CREATE FUNCTION " ++ quote functionName ++
        "() RETURNS TRIGGER LANGUAGE plpgsql AS") ∧
      (bodySignature u last.value).toOption.isSome ∧
      (bodySignature u last.value).toOption = (bodySignature u protectiveJournalBody).toOption then
    some functionName
  else none

def isTrigger (event scope table functionName : String) (tokens : List Token) : Bool :=
  (nameAt tokens 2).any fun trigger =>
    equalSql u tokens ("CREATE TRIGGER " ++ quote trigger ++ event ++ quote table ++ scope ++
      quote functionName ++ "()")

/-- The two triggers of a table, when there is one of each kind and they are apart. -/
def triggers (items : List (List Token × ℕ)) (functionName table : String) : List ℕ :=
  let rows := items.filter fun item => isTrigger u " BEFORE INSERT OR UPDATE OR DELETE ON "
    " FOR EACH ROW EXECUTE FUNCTION " table functionName item.1
  let truncates := items.filter fun item => isTrigger u " BEFORE TRUNCATE ON "
    " FOR EACH STATEMENT EXECUTE FUNCTION " table functionName item.1
  match rows, truncates with
  | [row], [truncate] =>
    if nameAt row.1 2 = nameAt truncate.1 2 then [] else [row.2, truncate.2]
  | _, _ => []

/-- What a plan recognizes, by the places of the statements. -/
structure ProtectivePlan where
  (statements tables : List ℕ)

def recognizedProtectiveJournalPlan (statements : List (List Token)) : ProtectivePlan :=
  let items := statements.zipIdx
  let pairs := items.flatMap fun fn =>
    ((protectiveFunction u fn.1).toList).flatMap fun functionName =>
      (items.filter fun item => isJournalTable u item.1).flatMap fun table =>
        let found := triggers u items functionName ((nameAt table.1 2).getD "")
        if found = [] then [] else [(fn.2 :: found, table.2)]
  ⟨pairs.flatMap Prod.fst, pairs.map Prod.snd⟩

/-! ### The policy -/

/-- A change of type that the evidence of a migration declares, its numbers as `Number` gives
them. -/
structure SafeTypeChange where
  (kind table column : String)
  (fromLength toLength : Option ℚ)
  (lockRisk dataRisk : String)

structure Evidence where
  markers : List String := []
  safeTypeChanges : List SafeTypeChange := []

def REQUIRED_MARKERS : List String := ["additive", "ephemeral-only", "rollback-documented"]

def FORBIDDEN_WORDS : List String := ["DROP", "TRUNCATE", "DELETE", "UPDATE", "INSERT"]

def cleanIdentifier (value : String) : String :=
  u.toLowerCase (Js.keep (fun c => c != '"') value)

def splitText (text : String) : List String := (text.toList.splitOn ' ').map String.ofList

def createdTables (items : List String) : List String :=
  (items.filter fun statement => Js.startsWith "CREATE TABLE " (u.toUpperCase statement)).map
    fun statement =>
      let tokens := splitText statement
      let clause := u.toUpperCase (" ".intercalate ((tokens.drop 2).take 3))
      cleanIdentifier u (tokens[if Js.startsWith "IF NOT EXISTS" clause then 5 else 2]?.getD "")

/-- `safeVarcharWidening`: `toNumber` is `Number` on texts. -/
def safeVarcharWidening (toNumber : String → Option ℚ) (lexemes : List Token)
    (evidence : Option Evidence) : Bool :=
  let words := lexemes.map fun t => if t.kind = .word then u.toUpperCase t.value else t.value
  let at_ := fun place => words[place]?.getD ""
  let value := fun place => (lexemes[place]?.map Token.value).getD ""
  words.length == 11 && at_ 0 == "ALTER" && at_ 1 == "TABLE" && at_ 3 == "ALTER" &&
    at_ 4 == "COLUMN" && at_ 6 == "TYPE" && at_ 7 == "VARCHAR" && at_ 8 == "(" && at_ 10 == ")" &&
    ((evidence.map Evidence.safeTypeChanges).getD []).any fun change =>
      change.kind == "varchar-widening" &&
        cleanIdentifier u change.table == cleanIdentifier u (value 2) &&
        cleanIdentifier u change.column == cleanIdentifier u (value 5) &&
        change.toLength.isSome && change.toLength == toNumber (value 9) &&
        (change.fromLength.any fun length => length.den == 1 && 0 < length &&
          change.toLength.any fun next => length < next) &&
        Js.present change.lockRisk && Js.present change.dataRisk

def unsafeStatementReason (lexemes : List Token) (tokens : List String) (upper : String)
    (protectiveTable : Bool) : Option String :=
  if lexemes.any fun t => t.kind == .body || symbol "~" t && !protectiveTable then
    some "migration_sql_ambiguous"
  else if FORBIDDEN_WORDS.any tokens.contains then
    some "migration_destructive_or_data_statement"
  else if tokens.contains "RENAME" ||
      includes upper "ALTER COLUMN" && includes upper " SET NOT NULL" then
    some "migration_destructive_alteration"
  else none

/-- What a statement that is safe so far lacks. -/
def statementKindReason (toNumber : String → Option ℚ) (lexemes : List Token) (tokens : List String)
    (statement upper : String) (newTables : List String) (uniquenessValidated : Bool)
    (evidence : Option Evidence) : Option String :=
  if includes upper "ALTER COLUMN" && tokens.contains "TYPE" then
    if safeVarcharWidening u toNumber lexemes evidence then none
    else some "migration_destructive_alteration"
  else if Js.startsWith "CREATE TABLE " upper ||
      Js.startsWith "CREATE TYPE " upper && includes upper " AS ENUM" then none
  else if Js.startsWith "CREATE UNIQUE INDEX " upper then
    if uniquenessValidated then none else some "migration_unique_index_proof_missing"
  else if Js.startsWith "CREATE INDEX " upper || structuredAddColumn u lexemes ||
      Js.startsWith "ALTER TYPE " upper && includes upper " ADD VALUE" then none
  else if Js.startsWith "ALTER TABLE " upper && includes upper " ADD CONSTRAINT " &&
      includes upper " FOREIGN KEY " then
    if newTables.contains (cleanIdentifier u ((splitText statement)[2]?.getD "")) then none
    else some "migration_sql_ambiguous"
  else some "migration_sql_ambiguous"

def statementReason (toNumber : String → Option ℚ) (lexemes : List Token) (newTables : List String)
    (uniquenessValidated : Bool) (evidence : Option Evidence) (protectiveTable : Bool) :
    Option String :=
  let statement := statementText lexemes
  let upper := u.toUpperCase statement
  let allowedActions := recognizedForeignKeyWords u lexemes
  let tokens := (lexemes.zipIdx.filter fun t => t.1.kind == .word && !allowedActions.contains t).map
    fun t => u.toUpperCase t.1.value
  match unsafeStatementReason lexemes tokens upper protectiveTable with
  | some reason => some reason
  | none => statementKindReason u toNumber lexemes tokens statement upper newTables
      uniquenessValidated evidence

def hasSensitiveText : Bool :=
  ["postgres://", "postgresql://", "cloudsql", "googleapis.com", " gcp ", " staging ", " prod ",
    " production ", "password=", "token=", "credential", "secret"].any
      (includes (u.toLowerCase source))

/-- The lines of a text in lower case, trimmed: a carriage return before the end of one goes with
it. -/
def lines : List String :=
  ((u.toLowerCase source).toList.splitOn '\n').map fun line => Js.trim (String.ofList line)

/-- What the text of a migration lacks, before it is cut. -/
def textReasons (evidence : Option Evidence) : List String :=
  (if Js.present source then [] else ["migration_sql_empty"]) ++
    (if includes source "/*" || includes source "*/" then ["migration_sql_ambiguous"] else []) ++
    (if hasSensitiveText u (" " ++ source ++ " ") then ["migration_persistent_or_secret_reference"]
      else []) ++
    (REQUIRED_MARKERS.filter fun marker =>
      !(lines u source).contains ("-- prisma-policy: " ++ marker) &&
        !((evidence.map Evidence.markers).getD []).any fun m => u.toLowerCase m == marker).map
      fun marker => "migration_marker_" ++ marker ++ "_missing"

def statementReasons (toNumber : String → Option ℚ) (source : String) (evidence : Option Evidence)
    (statements : List (List Token)) : List String :=
  let newTables := createdTables u (statements.map statementText)
  let uniquenessValidated := (lines u source).contains "-- prisma-policy: uniqueness-validated" ||
    ((evidence.map Evidence.markers).getD []).any fun m => u.toLowerCase m == "uniqueness-validated"
  let protective := recognizedProtectiveJournalPlan u statements
  let judged := statements.zipIdx.filter fun item => !protective.statements.contains item.2
  judged.filterMap fun item =>
    statementReason u toNumber item.1 newTables uniquenessValidated evidence
      (protective.tables.contains item.2)

/-- `analyzeMigrationSql`: the reasons against a migration; without one it is approved. -/
def analyzeMigrationSql (toNumber : String → Option ℚ) (sql : String) (evidence : Option Evidence) :
    List String :=
  match sqlStatements sql with
  | .error _ => textReasons u sql evidence ++ ["migration_sql_ambiguous"]
  | .ok statements =>
    textReasons u sql evidence ++ statementReasons u toNumber sql evidence statements

/-- **The policy judges the statements that PostgreSQL executes**, in every text that it approves
and that is plain. -/
theorem approved_statements {toNumber : String → Option ℚ} {sql : String}
    {evidence : Option Evidence} (happroved : analyzeMigrationSql u toNumber sql evidence = [])
    (hplain : policyLexer.Along Plain sql.toList) :
    ∃ statements, sqlStatements sql = .ok statements ∧
      Postgres.statements sql = .ok statements := by
  rw [analyzeMigrationSql] at happroved
  split at happroved
  · exact absurd happroved (List.append_ne_nil_of_right_ne_nil _ (List.cons_ne_nil _ _))
  · rename_i statements hread
    exact ⟨statements, hread, sqlStatements_eq hplain hread⟩

end

namespace Sample

def markers : String :=
  "-- prisma-policy: additive\n-- prisma-policy: ephemeral-only\n-- prisma-policy: " ++
    "rollback-documented\n"

/-- A migration whose last comment goes on after a carriage return. -/
def disguised : String :=
  markers ++ "CREATE TABLE t (id INT);\n-- done\rDROP TABLE leads;\n"

/-- A migration with the line ends of another system. -/
def regular : String :=
  markers ++ "CREATE TABLE t (id INT); -- done\r\n-- and \"documented\"\r\n"

theorem approved_sample {sql : String}
    (hsql : sql.toList = disguised.toList ∨ sql.toList = regular.toList) :
    analyzeMigrationSql Js.Unicode.ascii (fun _ => none) sql none = [] := by
  delta disguised regular markers at hsql
  simp only [String.toList_append] at hsql
  iterate 4 rw [String.toList_ofList] at hsql
  delta analyzeMigrationSql sqlStatements textReasons statementReasons hasSensitiveText lines
    includes Js.present Js.trim Js.Unicode.ascii
  simp only [String.toList_ofList, String.toList_append]
  rcases hsql with hsql | hsql <;> rw [hsql] <;> decide +kernel

/-- **A migration that is approved drops a table**: the policy reads the statement as a comment. -/
theorem drop_hidden :
    ¬∀ sql, analyzeMigrationSql Js.Unicode.ascii (fun _ => none) sql none = [] →
      sqlStatements sql = Postgres.statements sql := by
  intro h
  have hdrops : (Postgres.statements disguised).toOption.map (fun statements =>
        statements.any fun tokens => tokens.head?.any (keyword Js.Unicode.ascii "DROP")) ≠
      (sqlStatements disguised).toOption.map (fun statements =>
        statements.any fun tokens => tokens.head?.any (keyword Js.Unicode.ascii "DROP")) := by
    delta Postgres.statements sqlStatements disguised markers
    simp only [String.toList_append]
    rw [String.toList_ofList, String.toList_ofList, String.toList_ofList]
    decide +kernel
  exact hdrops (by rw [h disguised (approved_sample (.inl rfl))])

theorem approved_statements_regular :
    ∃ statements, sqlStatements regular = .ok statements ∧
      Postgres.statements regular = .ok statements :=
  approved_statements Js.Unicode.ascii (approved_sample (.inr rfl)) (by
    delta regular markers
    simp only [String.toList_append]
    rw [String.toList_ofList, String.toList_ofList, String.toList_ofList]
    decide +kernel)

end Sample

end CrmYnov.MigrationPolicy
