import LineHighlight.Grammar.Catalogue

/-!
# The standard catalogue

The entries that commonly sent flags lead to. Two of them, for text and for output, know all there
is to know about their language; the others give their source out as one stretch of text.
-/

namespace LineHighlight.Catalogue

/-- An entry that makes one token of everything. -/
def entry (className name : String) (priority : Rat) (kind : TokenKind)
    (aliases filenames : List String) : Lexer where
  className := className.toList
  name := name.toList
  aliases := aliases.map String.toList
  filenames := filenames.map String.toList
  priority := .ofFraction priority
  scan := Lexer.scanWhole kind

/-- The catalogue that is used unless another one is installed. -/
def standard : Catalogue :=
  [entry "BashLexer" "Bash" 0 .text
     ["bash", "sh", "ksh", "zsh", "shell", "openrc"]
     ["*.sh", "*.ksh", "*.bash", "*.ebuild", "*.eclass", "*.exheres-0", "*.exlib", "*.zsh",
      ".bashrc", "bashrc", ".bash_*", "bash_*", "zshrc", ".zshrc", ".kshrc", "kshrc", "PKGBUILD"],
   entry "BashSessionLexer" "Bash Session" 0 .text
     ["console", "shell-session"] ["*.sh-session", "*.shell-session"],
   entry "CLexer" "C" 0.1 .text ["c"] ["*.c", "*.h", "*.idc", "*.x[bp]m"],
   entry "CMakeLexer" "CMake" 0 .text ["cmake"] ["*.cmake", "CMakeLists.txt"],
   entry "CSharpLexer" "C#" 0 .text ["csharp", "c#", "cs"] ["*.cs"],
   entry "Ca65Lexer" "ca65 assembler" 0 .text ["ca65"] ["*.s"],
   entry "CplintLexer" "cplint" 0 .text
     ["cplint"] ["*.ecl", "*.prolog", "*.pro", "*.pl", "*.P", "*.lpad", "*.cpl"],
   entry "CppLexer" "C++" 0.1 .text
     ["cpp", "c++"]
     ["*.cpp", "*.hpp", "*.c++", "*.h++", "*.cc", "*.hh", "*.cxx", "*.hxx", "*.C", "*.H", "*.cp",
      "*.CPP", "*.tpp", "*.cppm", "*.ixx", "*.mxx", "*.ipp"],
   entry "DiffLexer" "Diff" 0 .text ["diff", "udiff"] ["*.diff", "*.patch"],
   entry "DockerLexer" "Docker" 0 .text ["docker", "dockerfile"] ["Dockerfile", "*.docker"],
   entry "GasLexer" "GAS" 0 .text ["gas", "asm"] ["*.s", "*.S"],
   entry "GoLexer" "Go" 0 .text ["go", "golang"] ["*.go"],
   entry "GraphvizLexer" "Graphviz" 0 .text ["graphviz", "dot"] ["*.gv", "*.dot"],
   entry "GroffLexer" "Groff" 0 .text
     ["groff", "nroff", "man"] ["*.[1-9]", "*.man", "*.1p", "*.3pm"],
   entry "HaskellLexer" "Haskell" 0 .text ["haskell", "hs"] ["*.hs"],
   entry "HtmlLexer" "HTML" 0 .text ["html"] ["*.html", "*.htm", "*.xhtml", "*.xslt"],
   entry "IniLexer" "INI" 0 .text
     ["ini", "cfg", "dosini"] ["*.ini", "*.cfg", "*.inf", ".editorconfig"],
   entry "JavascriptLexer" "JavaScript" 0 .text
     ["javascript", "js"] ["*.js", "*.jsm", "*.mjs", "*.cjs"],
   entry "JsonLexer" "JSON" 0 .text
     ["json", "json-object"] ["*.json", "*.jsonl", "*.ndjson", "Pipfile.lock", "*.module", "*.xc"],
   entry "Lean3Lexer" "Lean" 0 .text ["lean", "lean3"] ["*.lean"],
   entry "Lean4Lexer" "Lean4" 0 .text ["lean4"] ["*.lean"],
   entry "LiterateHaskellLexer" "Literate Haskell" 0 .text
     ["literate-haskell", "lhaskell", "lhs"] ["*.lhs"],
   entry "MakefileLexer" "Makefile" 0 .text
     ["make", "makefile", "mf", "bsdmake"]
     ["*.mak", "*.mk", "Makefile", "makefile", "Makefile.*", "GNUmakefile"],
   entry "MarkdownLexer" "Markdown" 0 .text ["markdown", "md"] ["*.md", "*.markdown"],
   entry "MasonLexer" "Mason" 0 .text
     ["mason"] ["*.m", "*.mhtml", "*.mc", "*.mi", "autohandler", "dhandler"],
   entry "MatlabLexer" "Matlab" 0 .text ["matlab"] ["*.m"],
   entry "NasmLexer" "NASM" 1 .text ["nasm"] ["*.asm", "*.ASM", "*.nasm"],
   entry "NginxConfLexer" "Nginx configuration file" 0 .text ["nginx"] ["nginx.conf"],
   entry "ObjectiveCLexer" "Objective-C" 0.05 .text
     ["objective-c", "objectivec", "obj-c", "objc"] ["*.m", "*.h"],
   entry "OcamlLexer" "OCaml" 0 .text ["ocaml"] ["*.ml", "*.mli", "*.mll", "*.mly"],
   entry "OctaveLexer" "Octave" 0 .text ["octave"] ["*.m"],
   entry "OutputLexer" "Text output" 0 .output ["output"] [],
   entry "PawnLexer" "Pawn" 0 .text ["pawn"] ["*.p", "*.pwn", "*.inc"],
   entry "Perl6Lexer" "Perl6" 0 .text
     ["perl6", "pl6", "raku"]
     ["*.pl", "*.pm", "*.nqp", "*.p6", "*.6pl", "*.p6l", "*.pl6", "*.6pm", "*.p6m", "*.pm6",
      "*.t", "*.raku", "*.rakumod", "*.rakutest", "*.rakudoc"],
   entry "PerlLexer" "Perl" 0 .text ["perl", "pl"] ["*.pl", "*.pm", "*.t", "*.perl"],
   entry "PhpLexer" "PHP" 0 .text ["php", "php3", "php4", "php5"] ["*.php", "*.php[345]", "*.inc"],
   entry "PovrayLexer" "POVRay" 0 .text ["pov"] ["*.pov", "*.inc"],
   entry "PrologLexer" "Prolog" 0 .text ["prolog"] ["*.ecl", "*.prolog", "*.pro", "*.pl"],
   entry "PythonLexer" "Python" 0 .text
     ["python", "py", "sage", "python3", "py3", "bazel", "starlark", "pyi"]
     ["*.py", "*.pyw", "*.pyi", "*.jy", "*.sage", "*.sc", "SConstruct", "SConscript", "*.bzl",
      "BUCK", "BUILD", "BUILD.bazel", "WORKSPACE", "*.tac", "*.pye"],
   entry "RebolLexer" "REBOL" 0 .text ["rebol"] ["*.r", "*.r3", "*.reb"],
   entry "RocqLexer" "Rocq Prover" 0 .text ["coq", "rocq", "rocq-prover"] ["*.v"],
   entry "RubyLexer" "Ruby" 0 .text
     ["ruby", "rb", "duby"]
     ["*.rb", "*.rbw", "Rakefile", "*.rake", "*.gemspec", "*.rbx", "*.duby", "Gemfile",
      "Vagrantfile"],
   entry "RustLexer" "Rust" 0 .text ["rust", "rs"] ["*.rs", "*.rs.in"],
   entry "SLexer" "S" 0 .text
     ["splus", "s", "r"] ["*.S", "*.R", ".Rhistory", ".Rprofile", ".Renviron"],
   entry "SqlJinjaLexer" "SQL+Jinja" 0 .text ["sql+jinja"] ["*.sql", "*.sql.j2", "*.sql.jinja2"],
   entry "SqlLexer" "SQL" 0 .text ["sql"] ["*.sql"],
   entry "TOMLLexer" "TOML" 0 .text ["toml"] ["*.toml", "Pipfile", "poetry.lock"],
   entry "Tads3Lexer" "TADS 3" 0 .text ["tads3"] ["*.t"],
   entry "TasmLexer" "TASM" 0 .text ["tasm"] ["*.asm", "*.ASM", "*.tasm"],
   entry "TextLexer" "Text only" 0.01 .text ["text"] ["*.txt"],
   entry "TransactSqlLexer" "Transact-SQL" 0 .text ["tsql", "t-sql"] ["*.sql"],
   entry "TsxLexer" "TSX" 0.5 .text ["tsx"] ["*.tsx"],
   entry "TypeScriptLexer" "TypeScript" 0.5 .text ["typescript", "ts"] ["*.ts"],
   entry "VerilogLexer" "verilog" 0 .text ["verilog", "v"] ["*.v"],
   entry "YamlLexer" "YAML" 0 .text ["yaml", "yml"] ["*.yaml", "*.yml"]]

end LineHighlight.Catalogue
