import TexMend.Text.Basic

/-!
# What is known about commands

The packages that define commands, frequent misspellings, the commands that a misspelling may mean, and
the tokens that need math mode. Where a table is tried in order, its order is part of it.
-/

namespace TexMend.Repair

/-- Packages of mathematical commands. -/
def mathPackages : List (Text × Text) :=
  [("\\mathbb", "amssymb"), ("\\mathcal", "amsmath"), ("\\mathfrak", "amssymb"),
    ("\\mathscr", "mathrsfs"), ("\\boldsymbol", "amsmath"), ("\\text", "amsmath"),
    ("\\intertext", "amsmath"), ("\\binom", "amsmath"), ("\\DeclareMathOperator", "amsmath"),
    ("\\operatorname", "amsmath"), ("\\xleftarrow", "amsmath"), ("\\xrightarrow", "amsmath"),
    ("\\overset", "amsmath"), ("\\underset", "amsmath"), ("\\implies", "amsmath"),
    ("\\iff", "amsmath")]

/-- Packages of commands for graphics and colour. -/
def graphicsPackages : List (Text × Text) :=
  [("\\includegraphics", "graphicx"), ("\\graphicspath", "graphicx"), ("\\rotatebox", "graphicx"),
    ("\\scalebox", "graphicx"), ("\\resizebox", "graphicx"), ("\\textcolor", "xcolor"),
    ("\\colorbox", "xcolor"), ("\\definecolor", "xcolor"), ("\\rowcolors", "xcolor")]

/-- Packages of commands for links, tables, units and listings. -/
def tablePackages : List (Text × Text) :=
  [("\\url", "url"), ("\\href", "hyperref"), ("\\autoref", "hyperref"), ("\\nameref", "hyperref"),
    ("\\toprule", "booktabs"), ("\\midrule", "booktabs"), ("\\bottomrule", "booktabs"),
    ("\\cmidrule", "booktabs"), ("\\multirow", "multirow"), ("\\SI", "siunitx"),
    ("\\si", "siunitx"), ("\\num", "siunitx"), ("\\lstinline", "listings"),
    ("\\lstset", "listings"), ("\\mintinline", "minted"), ("\\subcaption", "subcaption"),
    ("\\subfigure", "subcaption"), ("\\lipsum", "lipsum")]

/-- Packages of commands for drawings and for the layout of pages. -/
def drawingPackages : List (Text × Text) :=
  [("\\tikz", "tikz"), ("\\draw", "tikz"), ("\\node", "tikz"), ("\\fill", "tikz"),
    ("\\path", "tikz"), ("\\pgfplotstableread", "pgfplots"), ("\\geometry", "geometry"),
    ("\\fancyhf", "fancyhdr"), ("\\fancyhead", "fancyhdr"), ("\\fancyfoot", "fancyhdr"),
    ("\\pagestyle", "fancyhdr"), ("\\setlist", "enumitem"), ("\\titleformat", "titlesec")]

/-- The package that defines a command. -/
def packageOfCommand : List (Text × Text) :=
  mathPackages ++ graphicsPackages ++ tablePackages ++ drawingPackages

/-- The correction of a frequent misspelling. -/
def commonTypos : List (Text × Text) :=
  [("\\begn", "\\begin"), ("\\ens", "\\end"), ("\\sectino", "\\section"),
    ("\\subsectino", "\\subsection"), ("\\itm", "\\item"), ("\\texitit", "\\textit"),
    ("\\texti", "\\textit"), ("\\textbb", "\\textbf"), ("\\emhp", "\\emph"),
    ("\\newpagee", "\\newpage"), ("\\usepackge", "\\usepackage"),
    ("\\documentclas", "\\documentclass"), ("\\incldue", "\\include"), ("\\inlcude", "\\include"),
    ("\\includegraphic", "\\includegraphics"), ("\\lable", "\\label"), ("\\capton", "\\caption"),
    ("\\rerf", "\\ref"), ("\\ceite", "\\cite"), ("\\bibilography", "\\bibliography")]

/-- Commands that a misspelling may mean; the first that fits is taken. -/
def commonCommands : List Text :=
  ["\\begin", "\\end", "\\section", "\\subsection", "\\subsubsection", "\\item", "\\textbf",
    "\\textit", "\\emph", "\\newpage", "\\usepackage", "\\documentclass", "\\include", "\\input",
    "\\includegraphics", "\\label", "\\caption", "\\ref", "\\cite", "\\bibliography", "\\footnote",
    "\\chapter", "\\paragraph", "\\author", "\\title", "\\date", "\\maketitle", "\\tableofcontents"]

/-- Tokens that are only legal in math mode; the first that fits is taken. -/
def mathTokens : List Text :=
  ["_", "^", "\\alpha", "\\beta", "\\gamma", "\\delta", "\\sum", "\\int", "\\frac", "\\sqrt",
    "\\infty", "\\pi", "\\theta", "\\lambda", "\\mu", "\\sigma", "\\omega"]

end TexMend.Repair
