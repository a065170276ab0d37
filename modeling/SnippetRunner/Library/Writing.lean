/-!
# Writing

The texts of the modules that read and write texts. Every line of
them is indented by two, and they hold no braces.
-/

namespace SnippetRunner.Library

/-- The text of `string`. -/
def stringText : String := r#"
  from re import compile as _compile, IGNORECASE as _fold, VERBOSE as _verbose
  from collections import ChainMap as _ChainMap

  whitespace = ' \t\n\r\v\f'
  ascii_lowercase = 'abcdefghijklmnopqrstuvwxyz'
  ascii_uppercase = 'ABCDEFGHIJKLMNOPQRSTUVWXYZ'
  ascii_letters = ascii_lowercase + ascii_uppercase
  digits = '0123456789'
  hexdigits = digits + 'abcdef' + 'ABCDEF'
  octdigits = '01234567'
  punctuation = '!"' '#$%&\'()*+,-./:;<=>?@[\\]^_`\x7b|\x7d~'
  printable = digits + ascii_letters + punctuation + whitespace

  def capwords(s, sep=None):
      return (sep or ' ').join(map(str.capitalize, s.split(sep)))

  class Template:
      delimiter = '$'
      idpattern = '(?a:[_a-z][_a-z0-9]*)'
      braceidpattern = None
      flags = _fold
      def __init_subclass__(cls):
          super().__init_subclass__()
          cls._form = None
      _form = None
      def __init__(self, template):
          self.template = template
      def _pattern(self):
          cls = type(self)
          if cls._form is None:
              mark = ''.join(['\\' + c for c in cls.delimiter])
              cls._form = _compile(
                  '%s(?:(?P<escaped>%s)|(?P<named>%s)|\x7b(?P<braced>%s)\x7d|(?P<invalid>))' % (
                      mark, mark, cls.idpattern, cls.braceidpattern or cls.idpattern), cls.flags)
          return cls._form
      def _invalid(self, found):
          before = self.template[:found.start('invalid')]
          lines = before.splitlines(keepends=True)
          if lines:
              column = found.start('invalid') - len(''.join(lines[:-1]))
          else:
              column = 1
          raise ValueError('Invalid placeholder in string: line %d, col %d'
                           % (max(len(lines), 1), column))
      def _values(self, mapping, keywords):
          if mapping is None:
              return keywords
          return _ChainMap(keywords, mapping) if keywords else mapping
      def substitute(self, mapping=None, /, **keywords):
          values = self._values(mapping, keywords)
          def convert(found):
              named = found.group('named') or found.group('braced')
              if named is not None:
                  return str(values[named])
              if found.group('escaped') is not None:
                  return self.delimiter
              self._invalid(found)
          return self._pattern().sub(convert, self.template)
      def safe_substitute(self, mapping=None, /, **keywords):
          values = self._values(mapping, keywords)
          def convert(found):
              named = found.group('named') or found.group('braced')
              if named is not None:
                  try:
                      return str(values[named])
                  except KeyError:
                      return found.group()
              if found.group('escaped') is not None:
                  return self.delimiter
              return found.group()
          return self._pattern().sub(convert, self.template)
      def is_valid(self):
          return all(found.group('invalid') is None
                     for found in self._pattern().finditer(self.template))
      def get_identifiers(self):
          ids = []
          for found in self._pattern().finditer(self.template):
              named = found.group('named') or found.group('braced')
              if named is not None and named not in ids:
                  ids.append(named)
          return ids

  class Formatter:
      def format(self, format_string, /, *args, **keywords):
          return self.vformat(format_string, args, keywords)
      def vformat(self, format_string, args, keywords):
          return format_string.format(*args, **keywords)
      def get_value(self, key, args, keywords):
          return args[key] if isinstance(key, int) else keywords[key]
      def format_field(self, value, format_spec):
          return format(value, format_spec)
      def convert_field(self, value, conversion):
          if conversion is None:
              return value
          if conversion == 's':
              return str(value)
          if conversion == 'r':
              return repr(value)
          if conversion == 'a':
              return ascii(value)
          raise ValueError('Unknown conversion specifier %s' % conversion)
"#

/-- The text of `textwrap`. -/
def textwrapText : String := r#"
  from re import compile as _compile

  _whitespace = '\t\n\x0b\x0c\r '
  _word = r'[\w!"' + r"'&.,?]"
  _letter = r'[^\d\W]'
  _space = '[' + _whitespace + ']'
  _other = '[^' + _whitespace + ']'
  _dash = '-\x7b2,\x7d'
  _pieces = _compile(
      '(' + _space + '+|(?<=' + _word + ')' + _dash + r'(?=\w)|' + _other + '+?(?:-(?:(?<='
      + _letter + _letter + '-)|(?<=' + _letter + '-' + _letter + '-))(?=' + _letter + '-?'
      + _letter + ')|(?=' + _space + r'|\Z)|(?<=' + _word + ')(?=' + _dash + r'\w)))')
  _words = _compile('(' + _space + '+)')
  _sentence = _compile('[a-z][.!?]["\']?\\Z')

  class TextWrapper:
      def __init__(self, width=70, initial_indent='', subsequent_indent='', expand_tabs=True,
                   replace_whitespace=True, fix_sentence_endings=False, break_long_words=True,
                   drop_whitespace=True, break_on_hyphens=True, tabsize=8, *, max_lines=None,
                   placeholder=' [...]'):
          self.width, self.initial_indent = width, initial_indent
          self.subsequent_indent, self.expand_tabs = subsequent_indent, expand_tabs
          self.replace_whitespace = replace_whitespace
          self.fix_sentence_endings = fix_sentence_endings
          self.break_long_words, self.drop_whitespace = break_long_words, drop_whitespace
          self.break_on_hyphens, self.tabsize = break_on_hyphens, tabsize
          self.max_lines, self.placeholder = max_lines, placeholder
      def _chunks(self, text):
          if self.expand_tabs:
              text = text.expandtabs(self.tabsize)
          if self.replace_whitespace:
              for c in _whitespace:
                  text = text.replace(c, ' ')
          form = _pieces if self.break_on_hyphens else _words
          chunks = [chunk for chunk in form.split(text) if chunk]
          if self.fix_sentence_endings:
              for place in range(len(chunks) - 1):
                  if chunks[place + 1] == ' ' and _sentence.search(chunks[place]):
                      chunks[place + 1] = '  '
          return chunks
      def _long_word(self, chunks, line, used, width):
          room = 1 if width < 1 else width - used
          if self.break_long_words:
              end, chunk = room, chunks[0]
              if self.break_on_hyphens and len(chunk) > room:
                  hyphen = chunk.rfind('-', 0, room)
                  if hyphen > 0 and any(c != '-' for c in chunk[:hyphen]):
                      end = hyphen + 1
              line.append(chunk[:end])
              chunks[0] = chunk[end:]
          elif not line:
              line.append(chunks.pop(0))
      def wrap(self, text):
          chunks, lines = self._chunks(text), []
          if self.width <= 0:
              raise ValueError('invalid width %r (must be > 0)' % (self.width,))
          if self.max_lines is not None:
              indent = self.subsequent_indent if self.max_lines > 1 else self.initial_indent
              if len(indent) + len(self.placeholder.lstrip()) > self.width:
                  raise ValueError('placeholder too large for max width')
          while chunks:
              line, used = [], 0
              indent = self.subsequent_indent if lines else self.initial_indent
              width = self.width - len(indent)
              if self.drop_whitespace and chunks[0].strip() == '' and lines:
                  del chunks[0]
              while chunks and used + len(chunks[0]) <= width:
                  used += len(chunks[0])
                  line.append(chunks.pop(0))
              if chunks and len(chunks[0]) > width:
                  self._long_word(chunks, line, used, width)
                  used = sum(map(len, line))
              if self.drop_whitespace and line and line[-1].strip() == '':
                  used -= len(line[-1])
                  del line[-1]
              if line:
                  if (self.max_lines is None or len(lines) + 1 < self.max_lines
                          or (not chunks or self.drop_whitespace and len(chunks) == 1
                              and not chunks[0].strip()) and used <= width):
                      lines.append(indent + ''.join(line))
                  else:
                      while line:
                          if line[-1].strip() and used + len(self.placeholder) <= width:
                              line.append(self.placeholder)
                              lines.append(indent + ''.join(line))
                              break
                          used -= len(line[-1])
                          del line[-1]
                      else:
                          if lines:
                              last = lines[-1].rstrip()
                              if len(last) + len(self.placeholder) <= self.width:
                                  lines[-1] = last + self.placeholder
                                  break
                          lines.append(indent + self.placeholder.lstrip())
                      break
          return lines
      def fill(self, text):
          return '\n'.join(self.wrap(text))

  def wrap(text, width=70, **keywords):
      return TextWrapper(width=width, **keywords).wrap(text)

  def fill(text, width=70, **keywords):
      return TextWrapper(width=width, **keywords).fill(text)

  def shorten(text, width, **keywords):
      return TextWrapper(width=width, max_lines=1, **keywords).fill(' '.join(text.strip().split()))

  def dedent(text):
      lines = ['' if not line.strip(' \t') else line for line in text.split('\n')]
      margin = None
      for line in lines:
          if line:
              lead = line[:len(line) - len(line.lstrip(' \t'))]
              if margin is None:
                  margin = lead
              else:
                  size = 0
                  while size < min(len(margin), len(lead)) and margin[size] == lead[size]:
                      size += 1
                  margin = margin[:size]
      return '\n'.join([line[len(margin or ''):] for line in lines])

  def indent(text, prefix, predicate=None):
      if predicate is None:
          predicate = str.strip
      return ''.join([prefix + line if predicate(line) else line
                      for line in text.splitlines(True)])
"#

/-- The text of `re`. -/
def reText : String := r#"
  class error(Exception):
      def __init__(self, msg, pattern=None, pos=None):
          self.msg, self.pattern, self.pos = msg, pattern, pos
          if pattern is not None and pos is not None:
              msg = '%s at position %d' % (msg, pos)
              newline = '\n' if isinstance(pattern, str) else b'\n'
              self.lineno = pattern.count(newline, 0, pos) + 1
              self.colno = pos - pattern.rfind(newline, 0, pos)
              if newline in pattern:
                  msg = '%s (line %d, column %d)' % (msg, self.lineno, self.colno)
          else:
              self.lineno = self.colno = None
          super().__init__(msg)

  _flag_names = dict(ASCII=256, IGNORECASE=2, LOCALE=4, UNICODE=32, MULTILINE=8, DOTALL=16,
                     VERBOSE=64, TEMPLATE=1, DEBUG=128)

  class RegexFlag(int):
      def __repr__(self):
          if not int(self):
              return 're.NOFLAG'
          if self < 0:
              return '~(%r)' % ~self
          names = ['re.' + name for name, value in _flag_names.items() if int(self) & value]
          rest = int(self) & ~511
          return '|'.join(names + ([hex(rest)] if rest else []))
      __str__ = __repr__
      @property
      def name(self):
          return '|'.join(name for name, value in _flag_names.items() if int(self) & value)
      @property
      def value(self):
          return int(self)
      def __or__(self, other):
          return RegexFlag(int(self) | int(other)) if isinstance(other, int) else NotImplemented
      __ror__ = __or__
      def __and__(self, other):
          return RegexFlag(int(self) & int(other)) if isinstance(other, int) else NotImplemented
      __rand__ = __and__
      def __xor__(self, other):
          return RegexFlag(int(self) ^ int(other)) if isinstance(other, int) else NotImplemented
      __rxor__ = __xor__
      def __invert__(self):
          return RegexFlag(511 & ~int(self))

  NOFLAG = RegexFlag(0)
  A = ASCII = RegexFlag(256)
  I = IGNORECASE = RegexFlag(2)
  L = LOCALE = RegexFlag(4)
  U = UNICODE = RegexFlag(32)
  M = MULTILINE = RegexFlag(8)
  S = DOTALL = RegexFlag(16)
  X = VERBOSE = RegexFlag(64)
  T = TEMPLATE = RegexFlag(1)
  DEBUG = RegexFlag(128)

  _limit = 9223372036854775807

  class Pattern:
      _complaint_name = 're.Pattern'
      def __new__(cls, *args, **keywords):
          raise TypeError("cannot create 're.Pattern' instances")
      def __init_subclass__(cls):
          raise TypeError("type 're.Pattern' is not an acceptable base type")
      def _find(self, string, pos, endpos, extent, count=0):
          return _find(self.pattern, self.flags, string, max(pos, 0), max(endpos, 0), extent, count)
      def _one(self, string, pos, endpos, extent):
          for spans in self._find(string, pos, endpos, extent):
              return _matched(self, string, spans, pos, endpos)
      def match(self, string, pos=0, endpos=_limit):
          return self._one(string, pos, endpos, 1)
      def fullmatch(self, string, pos=0, endpos=_limit):
          return self._one(string, pos, endpos, 2)
      def search(self, string, pos=0, endpos=_limit):
          return self._one(string, pos, endpos, 0)
      def finditer(self, string, pos=0, endpos=_limit):
          return _walk(self, string, self._find(string, pos, endpos, 3), pos, endpos)
      def findall(self, string, pos=0, endpos=_limit):
          rows = []
          empty = _plain(string)[:0]
          for spans in self._find(string, pos, endpos, 3):
              parts = [string[spans[2 * n]:spans[2 * n + 1]] if spans[2 * n] >= 0 else empty
                       for n in range(self.groups + 1)]
              if self.groups == 0:
                  rows.append(parts[0])
              elif self.groups == 1:
                  rows.append(parts[1])
              else:
                  rows.append(tuple(parts[1:]))
          return rows
      def split(self, string, maxsplit=0):
          parts, last = [], 0
          if maxsplit >= 0:
              for spans in self._find(string, 0, _limit, 3, maxsplit):
                  parts.append(string[last:spans[0]])
                  for n in range(1, self.groups + 1):
                      taken = spans[2 * n] >= 0
                      parts.append(string[spans[2 * n]:spans[2 * n + 1]] if taken else None)
                  last = spans[1]
          else:
              self._find(string, 0, _limit, 0)
          parts.append(string[last:])
          return parts
      def subn(self, repl, string, count=0):
          if not callable(repl):
              template = _template(self, repl)
          parts, last, number = [], 0, 0
          if count >= 0:
              for spans in self._find(string, 0, _limit, 3, count):
                  parts.append(string[last:spans[0]])
                  found = _matched(self, string, spans, 0, _limit)
                  if callable(repl):
                      piece = repl(found)
                      if piece is not None:
                          parts.append(piece)
                  else:
                      parts.append(_expand(template, found))
                  last = spans[1]
                  number += 1
          else:
              self._find(string, 0, _limit, 0)
          parts.append(string[last:])
          return _plain(string)[:0].join(parts), number
      def sub(self, repl, string, count=0):
          return self.subn(repl, string, count)[0]
      def __repr__(self):
          shown = repr(self.pattern)[:200]
          flags = self.flags & ~32 if isinstance(self.pattern, str) else self.flags
          names = ['re.' + name for name in ('TEMPLATE', 'IGNORECASE', 'LOCALE', 'MULTILINE',
                                            'DOTALL', 'UNICODE', 'VERBOSE', 'DEBUG', 'ASCII')
                   if flags & _flag_names[name]]
          if flags & ~511:
              names.append(hex(flags & ~511))
          return 're.compile(%s)' % ', '.join([shown] + (['|'.join(names)] if names else []))
      def __eq__(self, other):
          if not isinstance(other, Pattern):
              return NotImplemented
          return (self.flags, type(self.pattern), self.pattern) == (
              other.flags, type(other.pattern), other.pattern)
      def __hash__(self):
          return hash((self.flags, self.pattern))
      def __copy__(self):
          return self
      def __deepcopy__(self, memo):
          return self
      @classmethod
      def __class_getitem__(cls, item):
          return cls

  def _plain(string):
      return str(string) if isinstance(string, str) else bytes(string)

  def _walk(pattern, string, rows, pos, endpos):
      for spans in rows:
          yield _matched(pattern, string, spans, pos, endpos)

  class Match:
      _complaint_name = 're.Match'
      def __new__(cls, *args, **keywords):
          raise TypeError("cannot create 're.Match' instances")
      def _number(self, group):
          if isinstance(group, int):
              if 0 <= group <= self.re.groups:
                  return group
          elif group in self.re.groupindex:
              return self.re.groupindex[group]
          raise IndexError('no such group')
      def _part(self, group, default=None):
          number = self._number(group)
          start = self._spans[2 * number]
          return default if start < 0 else self.string[start:self._spans[2 * number + 1]]
      def group(self, *groups):
          if not groups:
              return self._part(0)
          if len(groups) == 1:
              return self._part(groups[0])
          return tuple([self._part(group) for group in groups])
      def __getitem__(self, group):
          return self._part(group)
      def groups(self, default=None):
          return tuple([self._part(n, default) for n in range(1, self.re.groups + 1)])
      def groupdict(self, default=None):
          return dict([(name, self._part(n, default)) for name, n in self.re.groupindex.items()])
      def start(self, group=0, /):
          return self._spans[2 * self._number(group)]
      def end(self, group=0, /):
          return self._spans[2 * self._number(group) + 1]
      def span(self, group=0, /):
          number = self._number(group)
          return self._spans[2 * number], self._spans[2 * number + 1]
      @property
      def regs(self):
          return tuple([self.span(n) for n in range(self.re.groups + 1)])
      @property
      def lastindex(self):
          return self._spans[-1]
      @property
      def lastgroup(self):
          for name, number in self.re.groupindex.items():
              if number == self._spans[-1]:
                  return name
      def expand(self, template):
          return _expand(_template(self.re, template), self)
      def __repr__(self):
          return '<re.Match object; span=%r, match=%r>' % (self.span(), self.group())
      def __copy__(self):
          return self
      def __deepcopy__(self, memo):
          return self
      @classmethod
      def __class_getitem__(cls, item):
          return cls

  def _matched(pattern, string, spans, pos, endpos):
      found = object.__new__(Match)
      found.re, found.string, found._spans = pattern, string, spans
      found.pos = min(max(pos, 0), len(string))
      found.endpos = min(max(endpos, 0), len(string))
      return found

  _controls = dict(a='\a', b='\b', f='\f', n='\n', r='\r', t='\t', v='\v')
  _controls['\\'] = '\\'

  def _template(pattern, source):
      text = source if isinstance(source, str) else source.decode('latin-1')
      pieces, place, size = [], 0, len(text)
      def fail(message, at):
          raise error(message, source, at) from None
      def refer(number, at):
          if number > pattern.groups:
              fail('invalid group reference %d' % number, at)
          pieces.append(number)
      while place < size:
          stop = text.find('\\', place)
          if stop < 0:
              pieces.append(text[place:])
              break
          if stop > place:
              pieces.append(text[place:stop])
          if stop + 1 == size:
              fail('bad escape (end of pattern)', stop)
          c = text[stop + 1]
          place = stop + 2
          if c == 'g':
              if text[place:place + 1] != '<':
                  fail('missing <', place)
              end = text.find('>', place)
              name = text[place + 1:] if end < 0 else text[place + 1:end]
              if end < 0:
                  if name:
                      fail('missing >, unterminated name', place + 1)
                  fail('missing group name', place + 1)
              if not name:
                  fail('missing group name', place + 1)
              if name.isidentifier():
                  if name not in pattern.groupindex:
                      raise IndexError('unknown group name %r' % name)
                  refer(pattern.groupindex[name], place + 1)
              elif name.isdigit():
                  refer(int(name), place + 1)
              else:
                  fail('bad character in group name %r' % name, place + 1)
              place = end + 1
          elif c == '0':
              end = place
              while end < place + 2 and text[end:end + 1] in list('01234567'):
                  end += 1
              pieces.append(chr(int(text[stop + 1:end], 8) & 255))
              place = end
          elif c in '123456789':
              digits = text[stop + 1:stop + 3]
              third = text[stop + 1:stop + 4]
              if len(third) == 3 and all(d in '01234567' for d in third):
                  code = int(third, 8)
                  if code > 255:
                      fail('octal escape value \\%s outside of range 0-0o377' % third, stop)
                  pieces.append(chr(code))
                  place = stop + 4
              else:
                  if not (len(digits) == 2 and digits[1] in '0123456789'):
                      digits = c
                  place = stop + 1 + len(digits)
                  refer(int(digits), stop + 1)
          elif c in _controls:
              pieces.append(_controls[c])
          elif c.isascii() and c.isalpha():
              fail('bad escape \\%s' % c, stop)
          else:
              pieces.append('\\' + c)
      if isinstance(source, str):
          return pieces
      return [p.encode('latin-1') if isinstance(p, str) else p for p in pieces]

  def _expand(pieces, found):
      empty = _plain(found.string)[:0]
      return empty.join([found._part(p, empty) if isinstance(p, int) else p for p in pieces])

  def compile(pattern, flags=0):
      if isinstance(pattern, Pattern):
          if flags:
              raise ValueError('cannot process flags argument with a compiled pattern')
          return pattern
      made = _read(pattern, int(flags))
      if len(made) == 2:
          raise error(made[0], None if made[1] is None else pattern, made[1]) from None
      found = object.__new__(Pattern)
      found.pattern, found.flags, found.groups = pattern, made[0], made[1]
      found.groupindex = dict(made[2])
      return found

  def template(pattern, flags=0):
      return compile(pattern, flags | T)

  def purge():
      pass

  def match(pattern, string, flags=0):
      return compile(pattern, flags).match(string)

  def fullmatch(pattern, string, flags=0):
      return compile(pattern, flags).fullmatch(string)

  def search(pattern, string, flags=0):
      return compile(pattern, flags).search(string)

  def sub(pattern, repl, string, count=0, flags=0):
      return compile(pattern, flags).sub(repl, string, count)

  def subn(pattern, repl, string, count=0, flags=0):
      return compile(pattern, flags).subn(repl, string, count)

  def split(pattern, string, maxsplit=0, flags=0):
      return compile(pattern, flags).split(string, maxsplit)

  def findall(pattern, string, flags=0):
      return compile(pattern, flags).findall(string)

  def finditer(pattern, string, flags=0):
      return compile(pattern, flags).finditer(string)

  _special = '()[]\x7b\x7d?*+-|^$\\.&~# \t\n\r\v\f'

  def escape(pattern):
      if isinstance(pattern, str):
          return ''.join(['\\' + c if c in _special else c for c in pattern])
      return escape(str(pattern, 'latin1')).encode('latin1')
"#

/-- The text of `json`. -/
def jsonText : String := r#"
  from json.decoder import JSONDecodeError, JSONDecoder
  from json.encoder import JSONEncoder

  def dumps(obj, *, skipkeys=False, ensure_ascii=True, check_circular=True, allow_nan=True,
            cls=None, indent=None, separators=None, default=None, sort_keys=False, **kw):
      return (cls or JSONEncoder)(
          skipkeys=skipkeys, ensure_ascii=ensure_ascii, check_circular=check_circular,
          allow_nan=allow_nan, indent=indent, separators=separators, default=default,
          sort_keys=sort_keys, **kw).encode(obj)

  def dump(obj, fp, *, skipkeys=False, ensure_ascii=True, check_circular=True, allow_nan=True,
           cls=None, indent=None, separators=None, default=None, sort_keys=False, **kw):
      for chunk in (cls or JSONEncoder)(
              skipkeys=skipkeys, ensure_ascii=ensure_ascii, check_circular=check_circular,
              allow_nan=allow_nan, indent=indent, separators=separators, default=default,
              sort_keys=sort_keys, **kw).iterencode(obj):
          fp.write(chunk)

  def detect_encoding(b):
      if b[:3] == b'\xef\xbb\xbf':
          return 'utf-8-sig'
      if b[:4] in (b'\0\0\xfe\xff', b'\xff\xfe\0\0'):
          return 'utf-32'
      if b[:2] in (b'\xfe\xff', b'\xff\xfe'):
          return 'utf-16'
      if len(b) >= 4:
          if not b[0]:
              return 'utf-16-be' if b[1] else 'utf-32-be'
          if not b[1]:
              return 'utf-16-le' if b[2] or b[3] else 'utf-32-le'
      elif len(b) == 2:
          if not b[0]:
              return 'utf-16-be'
          if not b[1]:
              return 'utf-16-le'
      return 'utf-8'

  def loads(s, *, cls=None, object_hook=None, parse_float=None, parse_int=None,
            parse_constant=None, object_pairs_hook=None, **kw):
      if isinstance(s, str):
          if s.startswith('\ufeff'):
              raise JSONDecodeError('Unexpected UTF-8 BOM (decode using utf-8-sig)', s, 0)
      elif isinstance(s, (bytes, bytearray)):
          s = s.decode(detect_encoding(s), 'surrogatepass')
      else:
          raise TypeError('the JSON object must be str, bytes or bytearray, not %s'
                          % s.__class__.__name__)
      if object_hook is not None:
          kw['object_hook'] = object_hook
      if object_pairs_hook is not None:
          kw['object_pairs_hook'] = object_pairs_hook
      if parse_float is not None:
          kw['parse_float'] = parse_float
      if parse_int is not None:
          kw['parse_int'] = parse_int
      if parse_constant is not None:
          kw['parse_constant'] = parse_constant
      return (cls or JSONDecoder)(**kw).decode(s)

  def load(fp, **keywords):
      return loads(fp.read(), **keywords)
"#

/-- The text of `json.decoder`. -/
def jsonDecoderText : String := r#"
  class JSONDecodeError(ValueError):
      def __init__(self, msg, doc, pos):
          lineno = doc.count('\n', 0, pos) + 1
          colno = pos - doc.rfind('\n', 0, pos)
          ValueError.__init__(self, '%s: line %d column %d (char %d)' % (msg, lineno, colno, pos))
          self.msg, self.doc, self.pos, self.lineno, self.colno = msg, doc, pos, lineno, colno

  _constants = dict(NaN=float('nan'), Infinity=float('inf'))
  _constants['-Infinity'] = float('-inf')
  _escapes = dict(zip('"\\/bfnrt', '"\\/\b\f\n\r\t'))

  def _space(s, at):
      size = len(s)
      while at < size and s[at] in ' \t\n\r':
          at += 1
      return at

  def _code(s, at, size):
      digits = s[at:at + 4]
      if at + 4 >= size:
          raise JSONDecodeError('Invalid \\uXXXX escape', s, at - 1)
      for digit in digits:
          if digit not in '0123456789abcdefABCDEF':
              raise JSONDecodeError('Invalid \\uXXXX escape', s, at - 1)
      return int(digits, 16)

  def _string(s, at, strict):
      begin, size, parts = at - 1, len(s), []
      while True:
          quote = s.find('"', at)
          stop = s.find('\\', at, quote if quote >= 0 else size)
          if stop < 0:
              stop = quote if quote >= 0 else size
          chunk = s[at:stop]
          if strict and not chunk.isprintable():
              for place, c in enumerate(chunk):
                  if c <= '\x1f':
                      raise JSONDecodeError('Invalid control character at', s, at + place)
          if stop == size:
              raise JSONDecodeError('Unterminated string starting at', s, begin)
          if stop == quote:
              if not parts:
                  return chunk, stop + 1
              parts.append(chunk)
              return ''.join(parts), stop + 1
          parts.append(chunk)
          at = stop + 1
          if at == size:
              raise JSONDecodeError('Unterminated string starting at', s, begin)
          c = s[at]
          if c != 'u':
              if c not in _escapes:
                  raise JSONDecodeError('Invalid \\escape', s, stop)
              parts.append(_escapes[c])
              at += 1
          else:
              code = _code(s, at + 1, size)
              at += 5
              if 0xd800 <= code <= 0xdbff and at + 6 < size and s[at:at + 2] == '\\u':
                  low = _code(s, at + 2, size)
                  if 0xdc00 <= low <= 0xdfff:
                      code = 0x10000 + ((code - 0xd800) << 10) + (low - 0xdc00)
                      at += 6
              parts.append(chr(code))

  class _Stop(Exception):
      pass

  class JSONDecoder:
      def __init__(self, *, object_hook=None, parse_float=None, parse_int=None,
                   parse_constant=None, strict=True, object_pairs_hook=None):
          self.object_hook, self.object_pairs_hook = object_hook, object_pairs_hook
          self.parse_float = parse_float or float
          self.parse_int = parse_int or int
          self.parse_constant = parse_constant or _constants.__getitem__
          self.strict = strict
      def decode(self, s):
          value, end = self.raw_decode(s, _space(s, 0))
          end = _space(s, end)
          if end != len(s):
              raise JSONDecodeError('Extra data', s, end)
          return value
      def raw_decode(self, s, idx=0):
          try:
              return self._value(s, idx)
          except _Stop as stop:
              raise JSONDecodeError('Expecting value', s, stop.args[0]) from None
      def _value(self, s, at):
          c = s[at:at + 1]
          if c == '"':
              return _string(s, at + 1, self.strict)
          if c == '\x7b':
              return self._object(s, _space(s, at + 1))
          if c == '[':
              return self._array(s, _space(s, at + 1))
          if c == 'n' and s[at:at + 4] == 'null':
              return None, at + 4
          if c == 't' and s[at:at + 4] == 'true':
              return True, at + 4
          if c == 'f' and s[at:at + 5] == 'false':
              return False, at + 5
          for name in _constants:
              if c and c in 'NI-' and s[at:at + len(name)] == name:
                  return self.parse_constant(name), at + len(name)
          return self._number(s, at)
      def _digits(self, s, at):
          size = len(s)
          while at < size and '0' <= s[at] <= '9':
              at += 1
          return at
      def _number(self, s, at):
          start = at
          if s[at:at + 1] == '-':
              at += 1
          if not '0' <= s[at:at + 1] <= '9' or not s[at:at + 1]:
              raise _Stop(start)
          at = at + 1 if s[at] == '0' else self._digits(s, at)
          whole = at
          if s[at:at + 1] == '.' and self._digits(s, at + 1) > at + 1:
              at = self._digits(s, at + 1)
          if s[at:at + 1] in ('e', 'E'):
              after = at + 2 if s[at + 1:at + 2] in ('+', '-') else at + 1
              if self._digits(s, after) > after:
                  at = self._digits(s, after)
          if at == whole:
              return self.parse_int(s[start:at]), at
          return self.parse_float(s[start:at]), at
      def _object(self, s, at):
          pairs = []
          if s[at:at + 1] != '\x7d':
              while True:
                  if s[at:at + 1] != '"':
                      raise JSONDecodeError(
                          'Expecting property name enclosed in double quotes', s, at)
                  key, at = _string(s, at + 1, self.strict)
                  at = _space(s, at)
                  if s[at:at + 1] != ':':
                      raise JSONDecodeError("Expecting ':' delimiter", s, at)
                  value, at = self._value(s, _space(s, at + 1))
                  pairs.append((key, value))
                  at = _space(s, at)
                  if s[at:at + 1] == '\x7d':
                      break
                  if s[at:at + 1] != ',':
                      raise JSONDecodeError("Expecting ',' delimiter", s, at)
                  at = _space(s, at + 1)
          if self.object_pairs_hook is not None:
              return self.object_pairs_hook(pairs), at + 1
          made = dict(pairs)
          if self.object_hook is not None:
              made = self.object_hook(made)
          return made, at + 1
      def _array(self, s, at):
          items = []
          if s[at:at + 1] != ']':
              while True:
                  value, at = self._value(s, at)
                  items.append(value)
                  at = _space(s, at)
                  if s[at:at + 1] == ']':
                      break
                  if s[at:at + 1] != ',':
                      raise JSONDecodeError("Expecting ',' delimiter", s, at)
                  at = _space(s, at + 1)
          return items, at + 1
"#

/-- The text of `json.encoder`. -/
def jsonEncoderText : String := r#"
  _marks = dict(zip('"\\\b\f\n\r\t', ['\\"', '\\\\', '\\b', '\\f', '\\n', '\\r', '\\t']))

  def _mark(c, ascii):
      if c in _marks:
          return _marks[c]
      code = ord(c)
      if code < 32 or ascii and code > 126 and code != 127:
          if code > 0xffff:
              code -= 0x10000
              return '\\u%04x\\u%04x' % (0xd800 | code >> 10, 0xdc00 | code & 0x3ff)
          return '\\u%04x' % code
      return c

  def encode_basestring(s):
      if s.isprintable() and '"' not in s and '\\' not in s:
          return '"' + s + '"'
      return '"' + ''.join([_mark(c, False) for c in s]) + '"'

  def encode_basestring_ascii(s):
      if s.isascii() and s.isprintable() and '"' not in s and '\\' not in s:
          return '"' + s + '"'
      return '"' + ''.join([_mark(c, True) for c in s]) + '"'

  class JSONEncoder:
      item_separator = ', '
      key_separator = ': '
      def __init__(self, *, skipkeys=False, ensure_ascii=True, check_circular=True,
                   allow_nan=True, sort_keys=False, indent=None, separators=None, default=None):
          self.skipkeys, self.ensure_ascii = skipkeys, ensure_ascii
          self.check_circular, self.allow_nan = check_circular, allow_nan
          self.sort_keys, self.indent = sort_keys, indent
          if separators is not None:
              self.item_separator, self.key_separator = separators
          elif indent is not None:
              self.item_separator = ','
          if default is not None:
              self.default = default
      def default(self, o):
          raise TypeError('Object of type %s is not JSON serializable' % o.__class__.__name__)
      def encode(self, o):
          return ''.join(self.iterencode(o))
      def iterencode(self, o, _one_shot=False):
          parts = []
          self._write(o, parts, 0, dict())
          return iter(parts)
      def _text(self, s):
          return encode_basestring_ascii(s) if self.ensure_ascii else encode_basestring(s)
      def _float(self, o):
          if o != o:
              text = 'NaN'
          elif o in (float('inf'), float('-inf')):
              text = 'Infinity' if o > 0 else '-Infinity'
          else:
              return float.__repr__(o)
          if not self.allow_nan:
              raise ValueError('Out of range float values are not JSON compliant')
          return text
      def _plain(self, o):
          if isinstance(o, str):
              return self._text(o)
          if o is None:
              return 'null'
          if o is True:
              return 'true'
          if o is False:
              return 'false'
          if isinstance(o, int):
              return int.__repr__(o)
          if isinstance(o, float):
              return self._float(o)
      def _key(self, key):
          if isinstance(key, str):
              return key
          if key is None or isinstance(key, (int, float)):
              return self._plain(key)
          if not self.skipkeys:
              raise TypeError('keys must be str, int, float, bool or None, not %s'
                              % key.__class__.__name__)
      def _line(self, level):
          if self.indent is None:
              return ''
          step = self.indent if isinstance(self.indent, str) else ' ' * self.indent
          return '\n' + step * level
      def _write(self, o, parts, level, above):
          text = self._plain(o)
          if text is not None:
              parts.append(text)
              return
          checks = self.check_circular and not isinstance(o, tuple)
          if checks:
              if id(o) in above:
                  raise ValueError('Circular reference detected')
              above[id(o)] = o
          if isinstance(o, (list, tuple)):
              self._rows(o, parts, level, above)
          elif isinstance(o, dict):
              self._entries(o, parts, level, above)
          else:
              self._write(self.default(o), parts, level, above)
          if checks:
              del above[id(o)]
      def _rows(self, o, parts, level, above):
          if not o:
              parts.append('[]')
              return
          lead = '[' + self._line(level + 1)
          for item in o:
              parts.append(lead)
              lead = self.item_separator + self._line(level + 1)
              self._write(item, parts, level + 1, above)
          parts.append(self._line(level) + ']')
      def _entries(self, o, parts, level, above):
          if not o:
              parts.append('\x7b\x7d')
              return
          lead = '\x7b' + self._line(level + 1)
          entries = sorted(o.items()) if self.sort_keys else list(o.items())
          empty = True
          for key, value in entries:
              key = self._key(key)
              if key is None:
                  continue
              parts.append(lead)
              empty = False
              lead = self.item_separator + self._line(level + 1)
              parts.append(self._text(key) + self.key_separator)
              self._write(value, parts, level + 1, above)
          if empty:
              parts.append('\x7b')
          parts.append(self._line(level) + '\x7d')
"#

end SnippetRunner.Library
