import Vigil.Program.Shell.Source

/-!
# Reading scripts: words and commands

Words and commands are read together, because a word may hold a script.  The number that each reader
takes bounds the steps; `Source.nextLine` computes it from the length of the script.
-/

namespace Vigil.Program.Shell

/-- Where pieces of a word are read, which says where they end and what is special there. -/
structure Mode where
  /-- Are double quotes open? -/
  quoted : Bool := false
  /-- Do the pieces end at a closing brace? -/
  braces : Bool := false
  /-- Is this a document, where quotes stand for themselves? -/
  document : Bool := false
  /-- Is this the line that ends a document, where nothing is replaced? -/
  delimiter : Bool := false
  /-- How many brackets are open in an expression, if this is one? -/
  brackets : Option Nat := none

/-- What a list of commands is part of: a script, whose lines are read one by one, another command,
or a place where there may be none. -/
inductive ListKind where
  | line | inner | optional
deriving DecidableEq, Repr

/-- Pieces with a character in front. -/
def consChar (c : Char) (quoted : Bool) : List Piece → List Piece
  | .text s q :: rest => if q == quoted then .text (c :: s) q :: rest else .text [c] quoted :: .text s q :: rest
  | ps => .text [c] quoted :: ps

/-- The end of the text has come before the end of the pieces. -/
def endOfPieces (m : Mode) : Parse (List Piece) :=
  if m.brackets.isSome then refuse "Missing '))'"
  else if m.quoted && !m.document then refuse "Unterminated quoted string"
  else if m.braces then refuse "Missing '\x7d'"
  else pure []

/-- Does a backslash take its meaning from the character inside double quotes? -/
def escapable (m : Mode) (c : Char) : Bool :=
  c == '\\' || c == '\x60' || c == '$' || (c == '"' && (!m.document || m.braces)) ||
    (c == '\x7d' && m.braces)

/-- The text between old quotes for scripts, without the backslashes that protect it.  The number
bounds the characters. -/
def readOldScript (quoted : Bool) : Nat → Parse Bytes
  | 0 => refuse "EOF in backquote substitution"
  | n + 1 => do
    match ← nextJoined with
    | none => refuse "EOF in backquote substitution"
    | some '\x60' => return []
    | some '\\' =>
      match ← nextChar with
      | none => refuse "EOF in backquote substitution"
      | some c =>
        let more ← readOldScript quoted n
        return if c == '\\' || c == '\x60' || c == '$' || (quoted && c == '"') then c :: more
          else '\\' :: c :: more
    | some c => return c :: (← readOldScript quoted n)

/-- Read something from another text, in the same line and with the same documents. -/
def readingFrom {α : Type} (text : Bytes) (read : Parse α) : Parse α := do
  let s ← get
  set { rest := text, line := s.line, documents := s.documents : Source }
  let a ← read
  modify fun inner => { s with documents := inner.documents }
  return a

/-- The text of a word that ends a document, and whether some of it was quoted. -/
def delimiterText (w : Word) : Bytes × Bool :=
  let text : Piece → Bytes
    | .text s _ => s
    | _ => []
  let texts : List (Bytes × Bool) := w.map fun p =>
    match p with
    | .text s q => (s, q)
    | .quotes inside => (inside.flatMap text, true)
    | _ => ([], false)
  (texts.flatMap (·.1), texts.any (·.2))

/-- Names that no function may have, because the commands of that name are part of the language. -/
def specialCommands : List String :=
  [".", ":", "break", "continue", "eval", "exec", "exit", "export", "readonly", "return", "set",
    "shift", "times", "trap", "unset"]

/-- Read the operator of a redirection behind its first character. -/
def readRedirect (first : Char) : Parse Redirect := do
  match first, ← peek with
  | '>', some '>' => do advance; return .file .append
  | '>', some '|' => do advance; return .file .overwrite
  | '>', some '&' => do advance; return .duplicate
  | '>', _ => return .file .write
  | _, some '<' => do
    advance
    if (← peek) == some '-' then
      advance
      return .document true
    else return .document false
  | _, some '>' => do advance; return .file .readWrite
  | _, some '&' => do advance; return .duplicate
  | _, _ => return .file .read

/-- The text of an alias that a word is, unless it stands in the text of the same alias.  A word that
is not the first one of a command must follow an alias that ends with a blank; `before` is the length
of the text from the word on. -/
def aliasText? (s : Source) (first : Bool) (before : Nat) (w : Word) : Option (Bytes × Bytes) :=
  let after := s.rest.length
  let follows := s.replaced.any fun (name, length) =>
    length ≤ before && after < length &&
      ((s.aliases.find? (·.1 == name)).bind (·.2.getLast?)).any fun c => c == ' ' || c == '\t'
  match plainText? w with
  | none => none
  | some name =>
    if s.replaced.any fun (n, length) => n == name && length ≤ after then none
    else if first || follows then s.aliases.find? (·.1 == name)
    else none

/-- Does a text begin with the number of a stream and the sign of a redirection? -/
def beginsRedirect (s : Bytes) : Bool :=
  match s with
  | d :: rest =>
    d.isDigit && (match (dropJoints rest).1 with
      | '<' :: _ | '>' :: _ => true
      | _ => false)
  | [] => false

mutual

/-- Read the pieces of a word. -/
def readPieces : Nat → Mode → Parse (List Piece)
  | 0, _ => refuse "Too long"
  | n + 1, m => do
    match ← nextChar with
    | none => endOfPieces m
    | some c =>
      if c == '\\' then
        match ← nextChar with
        | none => return consChar '\\' true []
        | some '\n' => readPieces n m
        | some d =>
          let rest ← readPieces n m
          return if (m.quoted || m.document || m.brackets.isSome) && !escapable m d then
            consChar '\\' true (consChar d true rest)
          else consChar d true rest
      else if c == '$' && !m.delimiter then
        match ← readDollar n m with
        | some p => return p :: (← readPieces n m)
        | none => return consChar '$' (m.quoted || m.document) (← readPieces n m)
      else if c == '\x60' && !m.delimiter then
        let p ← readOldOutput n m
        return p :: (← readPieces n m)
      else if m.braces && c == '\x7d' then return []
      else
        match m.brackets with
        | some depth => readInBrackets n m depth c
        | none =>
          if m.quoted then
            if c == '"' then
              if m.braces then
                let inside ← readPieces n { quoted := true }
                return .quotes inside :: (← readPieces n m)
              else return []
            else return consChar c true (← readPieces n m)
          else if m.document then return consChar c true (← readPieces n m)
          else if c == '\x27' then
            let inside ← readWhile (· != '\x27')
            if (← nextChar).isNone then refuse "Unterminated quoted string"
            else return .text inside true :: (← readPieces n m)
          else if c == '"' then
            let inside ← readPieces n { quoted := true }
            return .quotes inside :: (← readPieces n m)
          else if endsWord c && !m.braces then
            unread (some c)
            return []
          else return consChar c false (← readPieces n m)

/-- Read on in an expression in which some brackets are open. -/
def readInBrackets : Nat → Mode → Nat → Char → Parse (List Piece)
  | 0, _, _, _ => refuse "Too long"
  | n + 1, m, depth, c => do
    if c == '(' then
      return consChar c true (← readPieces n { m with brackets := some (depth + 1) })
    else if c == ')' then
      if depth == 0 then
        if (← peek) == some ')' then
          advance
          return []
        else return consChar c true (← readPieces n m)
      else return consChar c true (← readPieces n { m with brackets := some (depth - 1) })
    else return consChar c true (← readPieces n m)

/-- Read a script between old quotes. -/
def readOldOutput : Nat → Mode → Parse Piece
  | 0, _ => refuse "Too long"
  | n + 1, m => do
    let text ← readOldScript (m.quoted || m.document) ((← get).rest.length + 1)
    return .output ((← readingFrom text (readList n .optional none)).getD .nothing)

/-- Read what a dollar sign introduces, behind the sign; without anything it stands for itself. -/
def readDollar : Nat → Mode → Parse (Option Piece)
  | 0, _ => refuse "Too long"
  | n + 1, m => do
    match ← peek with
    | some '(' =>
      advance
      if (← peek) == some '(' then
        advance
        return some (.arithmetic (← readPieces n { quoted := true, brackets := some 0 }))
      else
        let c ← readList n .optional none
        match ← nextToken n false false with
        | .operator ")" => return some (.output (c.getD .nothing))
        | t => unexpected t (some ")")
    | some '\x7b' =>
      advance
      return some (← readBraces n m)
    | some c =>
      if isNameStart c then
        return some (.parameter (← readName isNameChar ((← get).rest.length)) .plain)
      else if isSpecial c then
        advance
        return some (.parameter [c] .plain)
      else return none
    | none => return none

/-- Read a parameter in braces, behind the opening one. -/
def readBraces : Nat → Mode → Parse Piece
  | 0, _ => refuse "Too long"
  | n + 1, m => do
    let length := (← get).rest.length
    let named (c : Char) : Parse Bytes := do
      return c :: (← readName (if c.isDigit then Char.isDigit else isNameChar) length)
    let rest (name : Bytes) (change : Change) : Parse Piece := do
      let _ ← readPieces n { m with braces := true, brackets := none, quoted := m.quoted || m.document }
      return .parameter name change
    match ← nextJoined with
    | none => rest [] .unknown
    | some c =>
      if isNameStart c || c.isDigit then
        let name ← named c
        readChange n m name (← nextJoined)
      else if c == '#' then
        match ← nextJoined with
        | none => rest [] .unknown
        | some d =>
          if isNameChar d then rest (← named d) .length
          else
            let e ← nextJoined
            if d == '\x7d' || e != some '\x7d' then
              unread e
              readChange n m ['#'] (some d)
            else if isSpecial d then
              unread e
              rest [d] .length
            else
              unread e
              rest [] .unknown
      else if isSpecial c then readChange n m [c] (← nextJoined)
      else
        if c == '\x7d' then unread (some c)
        rest [] .unknown

/-- Read what is made of a parameter whose name has been read, and the character behind it. -/
def readChange : Nat → Mode → Bytes → Option Char → Parse Piece
  | 0, _, _, _ => refuse "Too long"
  | n + 1, m, name, c => do
    let quoted := m.quoted || m.document
    let inner : Mode := { m with braces := true, brackets := none, quoted }
    let word (kind : Substitute) (emptyToo : Bool) : Parse Piece := do
      return .parameter name (.replace kind emptyToo (← readPieces n inner))
    let cut (atEnd : Bool) (sign : Char) : Parse Piece := do
      let d ← nextJoined
      if d != some sign then unread d
      return .parameter name (.cut atEnd (d == some sign) (← readPieces n { braces := true }))
    let substitute? (c : Option Char) : Option Substitute :=
      match c with
      | some '-' => some .standIn
      | some '=' => some .assigned
      | some '+' => some .instead
      | some '?' => some .complaint
      | _ => none
    match c with
    | some '\x7d' => return .parameter name .plain
    | some '%' => cut true '%'
    | some '#' => cut false '#'
    | some ':' =>
      let d ← nextJoined
      match d, substitute? d with
      | some '\x7d', _ => return .parameter name .plain
      | _, some k => word k true
      | _, none =>
        let _ ← readPieces n inner
        return .parameter name .unknown
    | c =>
      match substitute? c with
      | some k => word k false
      | none =>
        let _ ← readPieces n inner
        return .parameter name .unknown

/-- Read the documents that have been announced. -/
def readDocuments : Nat → Parse Unit
  | 0 => refuse "Too long"
  | n + 1 => do
    let s ← get
    match s.announced with
    | [] => pure ()
    | a :: others =>
      let (text, rest) := documentText a (s.rest.length + 1) true s.rest
      set { s with rest, announced := others, line := s.line + text.count '\n' + 1 }
      let w ←
        if a.verbatim then pure [.text text true]
        else readingFrom text (readPieces n { document := true })
      modify fun s => { s with documents := s.documents ++ [(a.number, w)] }
      readDocuments n

/-- Read a token as it stands in the text. -/
def readToken : Nat → Parse Token
  | 0 => refuse "Too long"
  | n + 1 => do
    skipBlanks ((← get).rest.length + 1)
    let twice (c : Char) : Parse Token := do
      advance
      if (← peek) == some c then
        advance
        return .operator (String.ofList [c, c])
      else return .operator (String.ofList [c])
    match ← peek with
    | none => return .endOfText
    | some c =>
      if c == '\n' then
        advance
        readDocuments n
        return .newline
      else if c == '&' || c == '|' || c == ';' then twice c
      else if c == '(' || c == ')' then
        advance
        return .operator (String.ofList [c])
      else if c == '<' || c == '>' then
        advance
        return .redirect (if c == '<' then 0 else 1) (← readRedirect c)
      else if beginsRedirect (← get).rest then
        advance
        let sign ← nextJoined
        return .redirect (c.toNat - 48) (← readRedirect (sign.getD '>'))
      else return .word (← readPieces n {})

/-- Read a token; `words` says whether words may be reserved, and `lines` whether line ends are
passed over. -/
def nextToken : Nat → Bool → Bool → Parse Token
  | 0, _, _ => refuse "Too long"
  | n + 1, words, lines => do
    let s ← get
    let t ←
      match s.ahead with
      | some t => do
        set { s with ahead := none }
        pure t
      | none => readToken n
    match t with
    | .newline => if lines then nextToken n words lines else return t
    | .word w =>
      match (plainText? w).bind fun s => reservedWords.find? (·.toList == s) with
      | some r => return if words then .reserved r else t
      | none => return t
    | _ => return t

/-- Read a token, where a word may be an alias, which is replaced by its text. -/
def nextReplaced : Nat → Bool → Bool → Bool → Parse Token
  | 0, _, _, _ => refuse "Too long"
  | n + 1, first, words, lines => do
    let s ← get
    let t ← nextToken n words lines
    match s.ahead, t with
    | none, .word w =>
      let after ← get
      match aliasText? after first s.rest.length w with
      | none => return t
      | some (name, text) =>
        set { after with
          rest := text ++ after.rest
          replaced := (name, after.rest.length) :: after.replaced }
        nextReplaced n first words lines
    | _, _ => return t

/-- Read a redirection whose operator has been read. -/
def readTarget : Nat → Nat → Redirect → Parse Redirection
  | 0, _, _ => refuse "Too long"
  | n + 1, stream, r => do
    match r with
    | .document tabs =>
      skipBlanks ((← get).rest.length + 1)
      let c ← peek
      if c.isNone || c.any endsWord then unexpected (← nextToken n false false) none
      else
        let (delimiter, verbatim) := delimiterText (← readPieces n { delimiter := true })
        let s ← get
        let number := s.documents.length + s.announced.length
        set { s with announced := s.announced ++ [(⟨number, delimiter, verbatim, tabs⟩ : Announced)] }
        return .document stream number
    | r =>
      match ← nextToken n false false with
      | .word w =>
        return match r with
        | .file mode => .file stream mode w
        | _ => .duplicate stream w
      | t => unexpected t none

/-- Read the redirections behind a command. -/
def readRedirections : Nat → Bool → Parse (List Redirection)
  | 0, _ => refuse "Too long"
  | n + 1, words => do
    match ← nextToken n words false with
    | .redirect stream r =>
      let first ← readTarget n stream r
      return first :: (← readRedirections n words)
    | t =>
      giveBack t
      return []

/-- Read commands one after another, behind those that have been read. -/
def readList : Nat → ListKind → Option Command → Parse (Option Command)
  | 0, _, _ => refuse "Too long"
  | n + 1, kind, done => do
    let t ← nextReplaced n true true (kind != .line)
    match t with
    | .newline => return done
    | .endOfText =>
      giveBack t
      return done
    | _ =>
      giveBack t
      if (kind == .optional || (kind == .inner && done.isSome)) && t.endsList then return done
      else
        let c ← readAndOr n
        let t ← nextToken n false false
        let c :=
          match t with
          | .operator "&" => .background c
          | _ => c
        let done := some (match done with
          | none => c
          | some d => .sequence d c)
        match t with
        | .operator "&" | .operator ";" => readList n kind done
        | .newline | .endOfText =>
          giveBack t
          readList n kind done
        | _ =>
          if kind == .line then unexpected t none
          else
            giveBack t
            return done

/-- Read the commands that another command needs; at the end of the text there are none. -/
def readInner : Nat → Parse Command
  | 0 => refuse "Too long"
  | n + 1 => do
    match ← readList n .inner none with
    | some c => return c
    | none => return .nothing

/-- Read commands joined by their success. -/
def readAndOr : Nat → Parse Command
  | 0 => refuse "Too long"
  | n + 1 => do
    let c ← readPipeline n false
    readMore n c

/-- Read what is joined to a command. -/
def readMore : Nat → Command → Parse Command
  | 0, _ => refuse "Too long"
  | n + 1, c => do
    match ← nextToken n false false with
    | .operator "&&" => do
      let d ← readPipeline n true
      readMore n (.both c d)
    | .operator "||" => do
      let d ← readPipeline n true
      readMore n (.either c d)
    | t =>
      giveBack t
      return c

/-- Read commands joined by their streams, perhaps with the opposite outcome. -/
def readPipeline : Nat → Bool → Parse Command
  | 0, _ => refuse "Too long"
  | n + 1, lines => do
    let t ← nextReplaced n true true lines
    let negated := t.isReserved "!"
    if !negated then giveBack t
    let first ← readCommand n false
    let others ← readPiped n
    let c := if others.isEmpty then first else .pipeline (first :: others)
    return if negated then .negate c else c

/-- Read the commands that read from the one before. -/
def readPiped : Nat → Parse (List Command)
  | 0 => refuse "Too long"
  | n + 1 => do
    match ← nextToken n false false with
    | .operator "|" =>
      let c ← readCommand n true
      return c :: (← readPiped n)
    | t =>
      giveBack t
      return []

/-- Expect a reserved word. -/
def expect : Nat → String → Parse Unit
  | 0, _ => refuse "Too long"
  | n + 1, w => do
    match ← nextToken n true true with
    | .reserved r => if r == w then pure () else unexpected (.reserved r) (some w)
    | t => unexpected t (some w)

/-- Read one command. -/
def readCommand : Nat → Bool → Parse Command
  | 0, _ => refuse "Too long"
  | n + 1, lines => do
    let t ← nextReplaced n true true lines
    let line := (← get).line
    let closed (c : Command) : Parse Command := do
      let rs ← readRedirections n true
      return if rs.isEmpty then c else .redirected c rs
    match t with
    | .reserved "if" => closed (← readIf n)
    | .reserved "while" | .reserved "until" =>
      let condition ← readInner n
      expect n "do"
      let body ← readInner n
      expect n "done"
      closed (.loop (t.isReserved "while") condition body)
    | .reserved "for" => closed (← readFor n line)
    | .reserved "case" =>
      match ← nextToken n false false with
      | .word w =>
        expect n "in"
        closed (.select line w (← readCases n))
      | t => unexpected t (some "word")
    | .reserved "\x7b" =>
      let body ← readInner n
      expect n "\x7d"
      closed body
    | .operator "(" =>
      let body ← readInner n
      match ← nextToken n true true with
      | .operator ")" => return .subshell body (← readRedirections n true)
      | t => unexpected t (some ")")
    | .word _ | .redirect _ _ =>
      giveBack t
      readSimple n line [] [] []
    | t => unexpected t none

/-- Read a condition and its branches behind the word that introduces them. -/
def readIf : Nat → Parse Command
  | 0 => refuse "Too long"
  | n + 1 => do
    let condition ← readInner n
    expect n "then"
    let yes ← readInner n
    match ← nextToken n true true with
    | .reserved "elif" => return .ifThen condition yes (← readIf n)
    | .reserved "else" =>
      let no ← readInner n
      expect n "fi"
      return .ifThen condition yes no
    | .reserved "fi" => return .ifThen condition yes .nothing
    | t => unexpected t (some "fi")

/-- Read a loop over words behind the word that introduces it. -/
def readFor : Nat → Nat → Parse Command
  | 0, _ => refuse "Too long"
  | n + 1, line => do
    let name ←
      match ← nextToken n false false with
      | .word w =>
        match plainText? w with
        | some s => if isName s then pure s else refuse "Bad for loop variable"
        | none => refuse "Bad for loop variable"
      | _ => refuse "Bad for loop variable"
    let words ←
      match ← nextToken n true true with
      | .reserved "in" => readForWords n
      | .operator ";" => pure [[.quotes [.parameter ['@'] .plain]]]
      | t => do
        giveBack t
        pure [[.quotes [.parameter ['@'] .plain]]]
    expect n "do"
    let body ← readInner n
    expect n "done"
    return .forEach line name words body

/-- Read the words of a loop up to their end. -/
def readForWords : Nat → Parse (List Word)
  | 0 => refuse "Too long"
  | n + 1 => do
    match ← nextToken n false false with
    | .word w => return w :: (← readForWords n)
    | .newline | .operator ";" => return []
    | t => unexpected t none

/-- Read the cases of a choice up to the word that ends it. -/
def readCases : Nat → Parse (List (List Word × Command))
  | 0 => refuse "Too long"
  | n + 1 => do
    match ← nextToken n true true with
    | .reserved "esac" => return []
    | t =>
      let first ←
        match t with
        | .operator "(" => nextToken n false false
        | t => pure t
      let patterns ← readPatterns n first
      let body := (← readList n .optional none).getD .nothing
      match ← nextToken n true true with
      | .reserved "esac" => return [(patterns, body)]
      | .operator ";;" => return (patterns, body) :: (← readCases n)
      | t => unexpected t (some ";;")

/-- Read patterns up to a closing bracket. -/
def readPatterns : Nat → Token → Parse (List Word)
  | 0, _ => refuse "Too long"
  | n + 1, first => do
    let w : Word :=
      match first with
      | .word w => w
      | .reserved r => [.text r.toList false]
      | _ => []
    match first, ← nextToken n false false with
    | .endOfText, _ => unexpected .endOfText (some ")")
    | _, .operator "|" => return w :: (← readPatterns n (← nextToken n false false))
    | _, .operator ")" => return [w]
    | _, t => unexpected t (some ")")

/-- Read a simple command, or the definition of a function. -/
def readSimple : Nat → Nat → List (Bytes × Word) → List Word → List Redirection → Parse Command
  | 0, _, _, _, _ => refuse "Too long"
  | n + 1, line, assignments, words, redirections => do
    let close (t : Token) : Parse Command := do
      giveBack t
      return .simple line assignments words redirections
    match ← nextReplaced n words.isEmpty false false with
    | .word w =>
      match words, assignment? w with
      | [], some a => readSimple n line (assignments ++ [a]) words redirections
      | _, _ => readSimple n line assignments (words ++ [w]) redirections
    | .redirect stream r =>
      let r ← readTarget n stream r
      readSimple n line assignments words (redirections ++ [r])
    | .operator "(" =>
      match assignments, words, redirections with
      | [], [w], [] =>
        match ← nextToken n false false with
        | .operator ")" =>
          match plainText? w with
          | some name =>
            if isName name && !specialCommands.contains (String.ofList name) then
              return .function name (← readCommand n true)
            else refuse "Bad function name"
          | none => refuse "Bad function name"
        | t => unexpected t (some ")")
      | _, _, _ => close (.operator "(")
    | t => close t

end

/-- The pieces of a text in which parameters and outputs of scripts are replaced as in a document. -/
def Source.documentPieces (text : Bytes) : Except Failure (Word × Source) :=
  (readPieces (24 * (text.length + 4)) { document := true }).run { rest := text }

/-- The commands in the next line of a script, if there are any, and the rest. -/
def Source.nextLine (s : Source) : Except Failure (Option Command × Source) :=
  (readList (24 * (s.rest.length + 4)) .line none).run s

end Vigil.Program.Shell
