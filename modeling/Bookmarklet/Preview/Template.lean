/-!
# The page of a preview

The text around the script in a preview page. The page runs in a frame of its own without access to anything; what the
script writes to the console, and its faults, are posted to the host. `template` is the page with marks for its policy,
its channel and its script.
-/

namespace Bookmarklet.Preview

/-- What a preview page may load: nothing from outside. -/
def contentSecurityPolicy : String :=
  "default-src 'none'; script-src 'unsafe-inline'; style-src 'unsafe-inline'; img-src data:;"

/-- The name under which a preview page posts messages. -/
def channel : String := "bookmarklet-console"

/-- What stands for the policy in the template. -/
def policyMark : String := "\x7b\x7bcsp\x7d\x7d"

/-- What stands for the channel in the template. -/
def channelMark : String := "\x7b\x7bchannel\x7d\x7d"

/-- What stands for the script in the template. -/
def sourceMark : String := "\x7b\x7bsource\x7d\x7d"

/-- The lines before the script, for a policy and a channel. They pass its output and its faults on to the host. -/
def linesWith (policy channel : String) : List String :=
  ["<!doctype html>",
   "<html lang=\"en\">",
   "  <head>",
   "    <meta charset=\"UTF-8\" />",
   "    <meta name=\"viewport\" content=\"width=device-width, initial-scale=1.0\" />",
   "    <meta http-equiv=\"Content-Security-Policy\" content=\"" ++ policy ++ "\" />",
   "    <title>Bookmarklet Preview</title>",
   "    <style>",
   "      body \x7b font-family: sans-serif; padding: 16px; background: #f8f5ef; color: #2c2620; \x7d",
   "      .notice \x7b color: #6b655f; \x7d",
   "      .output \x7b margin-top: 12px; display: grid; gap: 6px; \x7d",
   "      .output div \x7b padding: 8px 10px; border-radius: 8px; background: #efe8dd; \x7d",
   "      pre.fault \x7b white-space: pre-wrap; color: #9b2c2c; \x7d",
   "    </style>",
   "  </head>",
   "  <body>",
   "    <p id=\"preview-notice\" class=\"notice\">Running bookmarklet preview...</p>",
   "    <div id=\"preview-output\" class=\"output\" aria-live=\"polite\"></div>",
   "    <script>",
   "      (function () \x7b",
   "        'use strict';",
   "        var CHANNEL = '" ++ channel ++ "';",
   "        var toText = function (value) \x7b",
   "          if (typeof value === 'string') return value;",
   "          try \x7b",
   "            var json = JSON.stringify(value);",
   "            return json === undefined ? String(value) : json;",
   "          \x7d catch (_) \x7b",
   "            return String(value);",
   "          \x7d",
   "        \x7d;",
   "        var send = function (level, payload) \x7b",
   "          try \x7b",
   "            window.parent.postMessage(\x7b type: CHANNEL, level: level, payload: String(payload) \x7d, '*');",
   "          \x7d catch (_) \x7b\x7d",
   "        \x7d;",
   "        var describe = function (error) \x7b",
   "          return error && error.message ? String(error.message) : String(error);",
   "        \x7d;",
   "        var writeOutput = function (message) \x7b",
   "          var output = document.getElementById('preview-output');",
   "          if (!output) return;",
   "          var item = document.createElement('div');",
   "          item.textContent = message;",
   "          output.appendChild(item);",
   "        \x7d;",
   "",
   "        ['log', 'info', 'warn', 'error'].forEach(function (level) \x7b",
   "          var original = console[level];",
   "          console[level] = function () \x7b",
   "            var args = Array.prototype.slice.call(arguments);",
   "            send(level, args.map(toText).join(' '));",
   "            return original.apply(console, args);",
   "          \x7d;",
   "        \x7d);",
   "",
   "        window.addEventListener('error', function (event) \x7b",
   "          send('error', event.message || 'Unknown error');",
   "        \x7d);",
   "        window.addEventListener('unhandledrejection', function (event) \x7b",
   "          send('error', describe(event.reason));",
   "        \x7d);",
   "",
   "        window.alert = function (message) \x7b",
   "          var text = String(message);",
   "          send('info', text);",
   "          writeOutput(text);",
   "        \x7d;",
   "        window.confirm = function (message) \x7b",
   "          var text = String(message);",
   "          send('info', text);",
   "          writeOutput(text);",
   "          return false;",
   "        \x7d;",
   "        window.prompt = function (message, defaultValue) \x7b",
   "          var text = defaultValue ? String(message) + ' (' + String(defaultValue) + ')' : String(message);",
   "          send('info', text);",
   "          writeOutput(text);",
   "          return null;",
   "        \x7d;",
   "",
   "        var fault = function (error) \x7b",
   "          var message = describe(error);",
   "          var pre = document.createElement('pre');",
   "          pre.className = 'fault';",
   "          pre.textContent = message;",
   "          document.body.appendChild(pre);",
   "          send('error', message);",
   "        \x7d;",
   "        var settle = function () \x7b",
   "          var notice = document.getElementById('preview-notice');",
   "          if (!notice) return;",
   "          var output = document.getElementById('preview-output');",
   "          var bodyText = (document.body.textContent || '').trim();",
   "          var noticeText = (notice.textContent || '').trim();",
   "          var visible =",
   "            (output && output.children.length > 0) ||",
   "            document.body.querySelectorAll('body > :not(script)').length > 2 ||",
   "            (bodyText && noticeText && bodyText !== noticeText);",
   "          if (visible) \x7b",
   "            notice.remove();",
   "          \x7d else \x7b",
   "            notice.textContent = 'No visible output. Check the console or DOM changes.';",
   "          \x7d",
   "        \x7d;",
   "",
   "        Object.defineProperty(window, '__marklet', \x7b",
   "          value: Object.freeze(\x7b fault: fault, settle: settle \x7d),",
   "          enumerable: false,",
   "          writable: false,",
   "          configurable: false",
   "        \x7d);",
   "      \x7d)();",
   "    </script>",
   "    <script>",
   "      try \x7b"]

/-- The lines before the script. -/
def linesBefore : List String := linesWith contentSecurityPolicy channel

/-- The lines behind the script, from the one that catches its faults. -/
def linesAfter : List String :=
  ["      \x7d catch (error) \x7b",
   "        window.__marklet.fault(error);",
   "      \x7d",
   "    </script>",
   "    <script>",
   "      window.__marklet.settle();",
   "    </script>",
   "  </body>",
   "</html>",
   ""]

/-- The page up to the script. -/
def pageBefore : String := "\n".intercalate linesBefore ++ "\n"

/-- The page behind the script. -/
def pageAfter : String := "\n" ++ "\n".intercalate linesAfter

/-- The page with marks for what is filled in. -/
def template : String := "\n".intercalate (linesWith policyMark channelMark) ++ "\n" ++ sourceMark ++ pageAfter

end Bookmarklet.Preview
