import FetchClient.Template.Rendering

/-!
# The built-in template

A client module: a comment with title and version if there is a title, an error class, the client
class with its constructor and its `request` routine, one method per endpoint, and the exports. In
the texts a brace is written as `\x7b` or `\x7d` where its partner is in another text.

- `BuiltIn.nodes`, `BuiltIn.template`: the tree of the template, and the template;
- `BuiltIn.source`: the text that it is read from.
-/

namespace FetchClient.BuiltIn

open Template

/-- Lines of text, each with a line feed behind it. -/
def lines (texts : List String) : String :=
  String.join (texts.map (· ++ "\n"))

/-- A value that the template was given. -/
def named (name : String) : Expr :=
  .ofTerm (.variable ⟨name, []⟩)

/-- A part of the endpoint that the loop is at. -/
def endpoint (part : String) : Expr :=
  .ofTerm (.variable ⟨"endpoint", [part]⟩)

/-- The comment with title and version. -/
def header : List Node :=
  [.text "/**\n * ", .output (named "title"),
   .choice
     [(named "version",
       [.text " (version ", .output (named "version"), .text ")"])]
     [],
   .text "\n *\n * Generated by fetchgen. Do not edit by hand.\n */\n\n"]

/-- The class of the errors that the client throws. -/
def errorClass : String :=
  lines [
    "class HttpError extends Error \x7b",
    "  constructor(status) \x7b",
    "    super(`HTTP error! status: ${status}`);",
    "    this.name = 'HttpError';",
    "    this.status = status;",
    "  \x7d",
    "\x7d",
    ""]

/-- The client class behind its name, up to its own methods. -/
def classHead : String :=
  lines [
    " \x7b",
    "  constructor(baseUrl = '', options = {}) \x7b",
    "    this.baseUrl = baseUrl;",
    "    this.defaultOptions = \x7b",
    "      ...options,",
    "      headers: \x7b",
    "        'Content-Type': 'application/json',",
    "        ...options.headers",
    "      \x7d",
    "    \x7d;",
    "  \x7d",
    "",
    "  async request(path, options = {}) \x7b",
    "    const url = this.baseUrl + path;",
    "    const config = \x7b",
    "      ...this.defaultOptions,",
    "      ...options,",
    "      headers: \x7b",
    "        ...this.defaultOptions.headers,",
    "        ...options.headers",
    "      \x7d",
    "    \x7d;",
    "",
    "    const response = await fetch(url, config);",
    "",
    "    if (!response.ok) \x7b",
    "      throw new HttpError(response.status);",
    "    \x7d",
    "",
    "    const contentType = response.headers.get('content-type');",
    "    if (contentType && contentType.includes('application/json')) \x7b",
    "      return await response.json();",
    "    \x7d else if (contentType && contentType.includes('text/')) \x7b",
    "      return await response.text();",
    "    \x7d else \x7b",
    "      return response;",
    "    \x7d",
    "  \x7d"]

/-- The method of one endpoint. -/
def method : List Node :=
  [.text "\n  async ", .output (endpoint "method_name"), .text "(",
   .choice [(endpoint "has_request_body", [.text "data"])] [],
   .text ") \x7b\n    return await this.request('", .output (endpoint "path_literal"),
   .text "', \x7b\n      method: '", .output (endpoint "method"), .text "'",
   .choice [(endpoint "has_request_body", [.text ",\n      body: JSON.stringify(data)"])] [],
   .text "\n    \x7d);\n  \x7d\n"]

def nodes : List Node :=
  [.choice [(named "title", header)] [],
   .text (errorClass ++ "class "), .output (named "class_name"), .text classHead,
   .loop none "endpoint" (named "endpoints") method [],
   .text "\n\x7d\n\nexport { HttpError };\nexport default ",
   .output (named "class_name"), .text ";\n"]

def template : Template :=
  .ofNodes nodes

/-! ## The text of the template -/

/-- The text of the comment, cut where a tag begins or ends. -/
def headerSource : List String :=
  ["{% if title -%}", "\n/**\n * ", "{{ title }}",
   "{% if version %}", " (version ", "{{ version }}", ")", "{% endif %}",
   "\n *\n * Generated by fetchgen. Do not edit by hand.\n */\n\n", "{% endif -%}"]

/-- The text of the loop over the endpoints, cut in the same way. -/
def methodsSource : List String :=
  ["{% for endpoint in endpoints %}", "\n  async ", "{{ endpoint.method_name }}",
   "(", "{% if endpoint.has_request_body %}", "data", "{% endif %}",
   ") \x7b\n    return await this.request('", "{{ endpoint.path_literal }}",
   "', \x7b\n      method: '", "{{ endpoint.method }}", "'",
   "{% if endpoint.has_request_body %}", ",\n      body: JSON.stringify(data)",
   "{% endif %}", "\n    \x7d);\n  \x7d\n", "{% endfor %}"]

/-- The whole text. -/
def source : String :=
  String.join
    (headerSource ++ ["\n" ++ (errorClass ++ "class "), "{{ class_name }}", classHead] ++
      methodsSource ++
      ["\n\x7d\n\nexport { HttpError };\nexport default ",
       "{{ class_name }}", ";\n"])

end FetchClient.BuiltIn
