import WikibaseQuery.Proofs.Terminals

/-!
# The grammar of SPARQL

The productions of SPARQL 1.1 that a `SELECT` query and the declarations before it are made from,
in the notation of the specification: sequences, choices and repetitions of terminals and
nonterminals.

* `Nonterminal.production` — the grammar;
* `Derives` — the lexemes of an expression;
* `IsQuery` — declarations of prefixes, if any, and a `SELECT` query after them.
-/

namespace WikibaseQuery

/-! ## Notation -/

/-- The nonterminals of the grammar. -/
inductive Nonterminal where
  | prefixDecl | selectQuery | subSelect | selectClause
  | datasetClause | defaultGraphClause | namedGraphClause | sourceSelector | whereClause
  | solutionModifier | groupClause | groupCondition | havingClause | havingCondition
  | orderClause | orderCondition | limitOffsetClauses | limitClause | offsetClause | valuesClause
  | groupGraphPattern | groupGraphPatternSub | triplesBlock | graphPatternNotTriples
  | optionalGraphPattern | graphGraphPattern | serviceGraphPattern | bind | inlineData
  | dataBlock | inlineDataOneVar | inlineDataFull | dataBlockValue
  | minusGraphPattern | groupOrUnionGraphPattern | filter | constraint
  | functionCall | argList | expressionList
  | propertyListNotEmpty | verb | objectList | object
  | triplesSameSubjectPath | propertyListPath | propertyListPathNotEmpty
  | verbPath | verbSimple | objectListPath | objectPath
  | path | pathAlternative | pathSequence | pathElt | pathEltOrInverse | pathMod | pathPrimary
  | pathNegatedPropertySet | pathOneInPropertySet
  | triplesNode | blankNodePropertyList | triplesNodePath | blankNodePropertyListPath
  | collection | collectionPath | graphNode | graphNodePath
  | varOrTerm | varOrIri | var | graphTerm
  | expression | conditionalOrExpression | conditionalAndExpression | valueLogical
  | relationalExpression | numericExpression | additiveExpression | multiplicativeExpression
  | unaryExpression | primaryExpression | brackettedExpression
  | builtInCall | regexExpression | substringExpression | strReplaceExpression
  | existsFunc | notExistsFunc | aggregate | iriOrFunction
  | rdfLiteral | numericLiteral | numericLiteralUnsigned | numericLiteralPositive
  | numericLiteralNegative | booleanLiteral | string | iri | prefixedName | blankNode

/-- The expressions that productions are written in. -/
inductive Ebnf where
  | terminal (t : Terminal)
  | rule (n : Nonterminal)
  /-- One after another. -/
  | seq (es : List Ebnf)
  /-- `a | b` -/
  | choice (es : List Ebnf)
  /-- `a*` -/
  | star (e : Ebnf)

instance : Coe Nonterminal Ebnf := ⟨.rule⟩

namespace Ebnf

def word (w : String) : Ebnf := .terminal (.word w)

def symbol (s : String) : Ebnf := .terminal (.symbol s)

/-- `a?` -/
def opt (e : Ebnf) : Ebnf := .choice [.seq [], e]

/-- `a+` -/
def plus (e : Ebnf) : Ebnf := .seq [e, .star e]

/-- `a (s a)*` -/
def separated (s : String) (e : Ebnf) : Ebnf := .seq [e, .star (.seq [.symbol s, e])]

/-- A word and what it is applied to in parentheses. -/
def call (w : String) (es : List Ebnf) : Ebnf :=
  .seq (.word w :: .symbol "(" :: (es ++ [.symbol ")"]))

end Ebnf

/-! ## Productions -/

namespace Nonterminal

/-- The functions of one expression. -/
def unaryFunctions : List String :=
  [ "STR", "LANG", "DATATYPE", "IRI", "URI", "ABS", "CEIL", "FLOOR", "ROUND", "STRLEN", "UCASE",
    "LCASE", "ENCODE_FOR_URI", "YEAR", "MONTH", "DAY", "HOURS", "MINUTES", "SECONDS", "TIMEZONE",
    "TZ", "MD5", "SHA1", "SHA256", "SHA384", "SHA512", "ISIRI", "ISURI", "ISBLANK", "ISLITERAL",
    "ISNUMERIC" ]

/-- The functions of two expressions. -/
def binaryFunctions : List String :=
  [ "LANGMATCHES", "CONTAINS", "STRSTARTS", "STRENDS", "STRBEFORE", "STRAFTER", "STRLANG", "STRDT",
    "SAMETERM" ]

/-- The operators that compare two numbers. -/
def comparisons : List String := ["=", "!=", "<", ">", "<=", ">="]

/-- What a query shows of a solution. -/
def shown : Ebnf := .choice [var, .seq [.symbol "(", expression, .word "AS", var, .symbol ")"]]

/-- The grammar. -/
def production : Nonterminal → Ebnf
  | prefixDecl => .seq [.word "PREFIX", .terminal .prefixName, .terminal .iriRef]
  | selectQuery => .seq [selectClause, .star datasetClause, whereClause, solutionModifier]
  | subSelect => .seq [selectClause, whereClause, solutionModifier, valuesClause]
  | selectClause =>
    .seq [.word "SELECT", .opt (.choice [.word "DISTINCT", .word "REDUCED"]),
      .choice [.plus shown, .symbol "*"]]
  | datasetClause => .seq [.word "FROM", .choice [defaultGraphClause, namedGraphClause]]
  | defaultGraphClause => sourceSelector
  | namedGraphClause => .seq [.word "NAMED", sourceSelector]
  | sourceSelector => iri
  | whereClause => .seq [.opt (.word "WHERE"), groupGraphPattern]
  | solutionModifier =>
    .seq [.opt groupClause, .opt havingClause, .opt orderClause, .opt limitOffsetClauses]
  | groupClause => .seq [.word "GROUP", .word "BY", .plus groupCondition]
  | groupCondition =>
    .choice
      [ builtInCall, functionCall,
        .seq [.symbol "(", expression, .opt (.seq [.word "AS", var]), .symbol ")"],
        var ]
  | havingClause => .seq [.word "HAVING", .plus havingCondition]
  | havingCondition => constraint
  | orderClause => .seq [.word "ORDER", .word "BY", .plus orderCondition]
  | orderCondition =>
    .choice
      [ .seq [.choice [.word "ASC", .word "DESC"], brackettedExpression],
        .choice [constraint, var] ]
  | limitOffsetClauses =>
    .choice [.seq [limitClause, .opt offsetClause], .seq [offsetClause, .opt limitClause]]
  | limitClause => .seq [.word "LIMIT", .terminal (.number none .integer)]
  | offsetClause => .seq [.word "OFFSET", .terminal (.number none .integer)]
  | valuesClause => .opt (.seq [.word "VALUES", dataBlock])
  | groupGraphPattern =>
    .seq [.symbol "\x7b", .choice [subSelect, groupGraphPatternSub], .symbol "\x7d"]
  | groupGraphPatternSub =>
    .seq [.opt triplesBlock,
      .star (.seq [graphPatternNotTriples, .opt (.symbol "."), .opt triplesBlock])]
  | triplesBlock => .seq [triplesSameSubjectPath, .opt (.seq [.symbol ".", .opt triplesBlock])]
  | graphPatternNotTriples =>
    .choice
      [ groupOrUnionGraphPattern, optionalGraphPattern, minusGraphPattern, graphGraphPattern,
        serviceGraphPattern, filter, bind, inlineData ]
  | optionalGraphPattern => .seq [.word "OPTIONAL", groupGraphPattern]
  | graphGraphPattern => .seq [.word "GRAPH", varOrIri, groupGraphPattern]
  | serviceGraphPattern =>
    .seq [.word "SERVICE", .opt (.word "SILENT"), varOrIri, groupGraphPattern]
  | bind => .call "BIND" [expression, .word "AS", var]
  | inlineData => .seq [.word "VALUES", dataBlock]
  | dataBlock => .choice [inlineDataOneVar, inlineDataFull]
  | inlineDataOneVar => .seq [var, .symbol "\x7b", .star dataBlockValue, .symbol "\x7d"]
  | inlineDataFull =>
    .seq
      [ .choice [.terminal .nil, .seq [.symbol "(", .star var, .symbol ")"]],
        .symbol "\x7b",
        .star (.choice [.seq [.symbol "(", .star dataBlockValue, .symbol ")"], .terminal .nil]),
        .symbol "\x7d" ]
  | dataBlockValue => .choice [iri, rdfLiteral, numericLiteral, booleanLiteral, .word "UNDEF"]
  | minusGraphPattern => .seq [.word "MINUS", groupGraphPattern]
  | groupOrUnionGraphPattern =>
    .seq [groupGraphPattern, .star (.seq [.word "UNION", groupGraphPattern])]
  | filter => .seq [.word "FILTER", constraint]
  | constraint => .choice [brackettedExpression, builtInCall, functionCall]
  | functionCall => .seq [iri, argList]
  | argList =>
    .choice
      [ .terminal .nil,
        .seq [.symbol "(", .opt (.word "DISTINCT"), .separated "," expression, .symbol ")"] ]
  | expressionList =>
    .choice [.terminal .nil, .seq [.symbol "(", .separated "," expression, .symbol ")"]]
  | propertyListNotEmpty =>
    .seq [verb, objectList, .star (.seq [.symbol ";", .opt (.seq [verb, objectList])])]
  | verb => .choice [varOrIri, .word "a"]
  | objectList => .separated "," object
  | object => graphNode
  | triplesSameSubjectPath =>
    .choice [.seq [varOrTerm, propertyListPathNotEmpty], .seq [triplesNodePath, propertyListPath]]
  | propertyListPath => .opt propertyListPathNotEmpty
  | propertyListPathNotEmpty =>
    .seq [.choice [verbPath, verbSimple], objectListPath,
      .star (.seq [.symbol ";", .opt (.seq [.choice [verbPath, verbSimple], objectList])])]
  | verbPath => path
  | verbSimple => var
  | objectListPath => .separated "," objectPath
  | objectPath => graphNodePath
  | path => pathAlternative
  | pathAlternative => .separated "|" pathSequence
  | pathSequence => .separated "/" pathEltOrInverse
  | pathElt => .seq [pathPrimary, .opt pathMod]
  | pathEltOrInverse => .choice [pathElt, .seq [.symbol "^", pathElt]]
  | pathMod => .choice [.symbol "?", .symbol "*", .symbol "+"]
  | pathPrimary =>
    .choice
      [ iri, .word "a", .seq [.symbol "!", pathNegatedPropertySet],
        .seq [.symbol "(", path, .symbol ")"] ]
  | pathNegatedPropertySet =>
    .choice
      [ pathOneInPropertySet,
        .seq [.symbol "(", .opt (.separated "|" pathOneInPropertySet), .symbol ")"] ]
  | pathOneInPropertySet =>
    .choice [iri, .word "a", .seq [.symbol "^", .choice [iri, .word "a"]]]
  | triplesNode => .choice [collection, blankNodePropertyList]
  | blankNodePropertyList => .seq [.symbol "[", propertyListNotEmpty, .symbol "]"]
  | triplesNodePath => .choice [collectionPath, blankNodePropertyListPath]
  | blankNodePropertyListPath => .seq [.symbol "[", propertyListPathNotEmpty, .symbol "]"]
  | collection => .seq [.symbol "(", .plus graphNode, .symbol ")"]
  | collectionPath => .seq [.symbol "(", .plus graphNodePath, .symbol ")"]
  | graphNode => .choice [varOrTerm, triplesNode]
  | graphNodePath => .choice [varOrTerm, triplesNodePath]
  | varOrTerm => .choice [var, graphTerm]
  | varOrIri => .choice [var, iri]
  | var => .choice [.terminal (.var '?'), .terminal (.var '$')]
  | graphTerm =>
    .choice [iri, rdfLiteral, numericLiteral, booleanLiteral, blankNode, .terminal .nil]
  | expression => conditionalOrExpression
  | conditionalOrExpression => .separated "||" conditionalAndExpression
  | conditionalAndExpression => .separated "&&" valueLogical
  | valueLogical => relationalExpression
  | relationalExpression =>
    .seq
      [ numericExpression,
        .opt (.choice (comparisons.map (fun s => .seq [.symbol s, numericExpression]) ++
          [.seq [.word "IN", expressionList], .seq [.word "NOT", .word "IN", expressionList]])) ]
  | numericExpression => additiveExpression
  | additiveExpression =>
    .seq
      [ multiplicativeExpression,
        .star (.choice
          [ .seq [.symbol "+", multiplicativeExpression],
            .seq [.symbol "-", multiplicativeExpression],
            .seq
              [ .choice [numericLiteralPositive, numericLiteralNegative],
                .star (.choice
                  [ .seq [.symbol "*", unaryExpression], .seq [.symbol "/", unaryExpression] ]) ] ]) ]
  | multiplicativeExpression =>
    .seq
      [ unaryExpression,
        .star (.choice
          [.seq [.symbol "*", unaryExpression], .seq [.symbol "/", unaryExpression]]) ]
  | unaryExpression =>
    .choice
      [ .seq [.symbol "!", primaryExpression], .seq [.symbol "+", primaryExpression],
        .seq [.symbol "-", primaryExpression], primaryExpression ]
  | primaryExpression =>
    .choice
      [ brackettedExpression, builtInCall, iriOrFunction, rdfLiteral, numericLiteral,
        booleanLiteral, var ]
  | brackettedExpression => .seq [.symbol "(", expression, .symbol ")"]
  | builtInCall =>
    .choice
      [ aggregate,
        .choice (unaryFunctions.map fun w => .call w [expression]),
        .choice (binaryFunctions.map fun w => .call w [expression, .symbol ",", expression]),
        .call "IF" [expression, .symbol ",", expression, .symbol ",", expression],
        .call "BOUND" [var],
        .choice [.call "BNODE" [expression], .seq [.word "BNODE", .terminal .nil]],
        .seq
          [ .choice [.word "RAND", .word "NOW", .word "UUID", .word "STRUUID"],
            .terminal .nil ],
        .seq [.choice [.word "CONCAT", .word "COALESCE"], expressionList],
        regexExpression, substringExpression, strReplaceExpression, existsFunc, notExistsFunc ]
  | regexExpression =>
    .call "REGEX" [expression, .symbol ",", expression, .opt (.seq [.symbol ",", expression])]
  | substringExpression =>
    .call "SUBSTR" [expression, .symbol ",", expression, .opt (.seq [.symbol ",", expression])]
  | strReplaceExpression =>
    .call "REPLACE"
      [ expression, .symbol ",", expression, .symbol ",", expression,
        .opt (.seq [.symbol ",", expression]) ]
  | existsFunc => .seq [.word "EXISTS", groupGraphPattern]
  | notExistsFunc => .seq [.word "NOT", .word "EXISTS", groupGraphPattern]
  | aggregate =>
    .choice
      [ .call "COUNT" [.opt (.word "DISTINCT"), .choice [.symbol "*", expression]],
        .choice (["SUM", "MIN", "MAX", "AVG", "SAMPLE"].map fun w =>
          .call w [.opt (.word "DISTINCT"), expression]),
        .call "GROUP_CONCAT"
          [ .opt (.word "DISTINCT"), expression,
            .opt (.seq [.symbol ";", .word "SEPARATOR", .symbol "=", string]) ] ]
  | iriOrFunction => .seq [iri, .opt argList]
  | rdfLiteral =>
    .seq [string, .opt (.choice [.terminal .language, .seq [.symbol "^^", iri]])]
  | numericLiteral =>
    .choice [numericLiteralUnsigned, numericLiteralPositive, numericLiteralNegative]
  | numericLiteralUnsigned =>
    .choice
      [ .terminal (.number none .integer), .terminal (.number none .decimal),
        .terminal (.number none .double) ]
  | numericLiteralPositive =>
    .choice
      [ .terminal (.number (some '+') .integer), .terminal (.number (some '+') .decimal),
        .terminal (.number (some '+') .double) ]
  | numericLiteralNegative =>
    .choice
      [ .terminal (.number (some '-') .integer), .terminal (.number (some '-') .decimal),
        .terminal (.number (some '-') .double) ]
  | booleanLiteral => .choice [.word "TRUE", .word "FALSE"]
  | string =>
    .choice
      [ .terminal (.string '\''), .terminal (.string '"'), .terminal (.longString '\''),
        .terminal (.longString '"') ]
  | iri => .choice [.terminal .iriRef, prefixedName]
  | prefixedName => .choice [.terminal .localName, .terminal .prefixName]
  | blankNode => .choice [.terminal .blankLabel, .terminal .anon]

end Nonterminal

/-! ## Derivations -/

/-- The lexemes are an instance of the expression. -/
inductive Derives : Ebnf → List (List Char) → Prop
  | terminal {t : Terminal} {lexeme : List Char} :
      t.Matches lexeme → Derives (.terminal t) [lexeme]
  | rule {n : Nonterminal} {ls : List (List Char)} : Derives n.production ls → Derives (.rule n) ls
  | nil : Derives (.seq []) []
  | cons {e : Ebnf} {es : List Ebnf} {ls ms : List (List Char)} :
      Derives e ls → Derives (.seq es) ms → Derives (.seq (e :: es)) (ls ++ ms)
  | choice {e : Ebnf} {es : List Ebnf} {ls : List (List Char)} :
      e ∈ es → Derives e ls → Derives (.choice es) ls
  | stop {e : Ebnf} : Derives (.star e) []
  | more {e : Ebnf} {ls ms : List (List Char)} :
      Derives e ls → Derives (.star e) ms → Derives (.star e) (ls ++ ms)

/-- Declarations of prefixes, if any, and a `SELECT` query after them. -/
def IsQuery (lexemes : List (List Char)) : Prop :=
  Derives (.seq [.star (.rule .prefixDecl), .rule .selectQuery]) lexemes

section

variable {e f : Ebnf} {es : List Ebnf} {ls ms : List (List Char)}

theorem derives_word {w : String} (h : (Terminal.word w).Matches w.toList) :
    Derives (.word w) [w.toList] := .terminal h

theorem derives_symbol {s : String} (h : s ∈ symbols) : Derives (.symbol s) [s.toList] :=
  .terminal ⟨h, rfl⟩

theorem derives_opt_nil : Derives (.opt e) [] := .choice (by simp) .nil

theorem Derives.opt (h : Derives e ls) : Derives (.opt e) ls := .choice (by simp) h

/-- Nothing has to follow where more may. -/
theorem Derives.star_nil (h : Derives e ls) : Derives (.seq [e, .star f]) ls := by
  simpa using h.cons (.cons .stop .nil)

theorem Derives.opt_nil (h : Derives e ls) : Derives (.seq [e, .opt f]) ls := by
  simpa using h.cons (derives_opt_nil.cons .nil)

theorem Derives.pair (he : Derives e ls) (hf : Derives f ms) :
    Derives (.seq [e, f]) (ls ++ ms) := by
  simpa using he.cons (hf.cons .nil)

/-- One instance after another. -/
theorem derives_star {α : Type} {f : α → List (List Char)} {xs : List α}
    (h : ∀ x ∈ xs, Derives e (f x)) : Derives (.star e) (xs.flatMap f) := by
  induction xs with
  | nil => exact .stop
  | cons x xs ih =>
    obtain ⟨hfirst, hothers⟩ := List.forall_mem_cons.1 h
    exact hfirst.more (ih hothers)

end

end WikibaseQuery
